import PoolPlan.Bytes.Utf8
import PoolPlan.Failure
import PoolPlan.Worker.Pool

namespace PoolPlan.Pool

def userDataText (p : Pool) : Except Failure String :=
  match Utf8.decode p.userData with
  | .ok text => .ok text
  | .error fault => .error (.validation p.name (some "userData") s!"not valid UTF-8: {fault.message}")

end PoolPlan.Pool
