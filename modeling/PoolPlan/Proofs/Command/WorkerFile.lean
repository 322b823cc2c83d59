import PoolPlan.Command.Compile
import PoolPlan.Proofs.Rewriting
import PoolPlan.Proofs.Worker.Respelling
import PoolPlan.Proofs.Yaml.Nodes

namespace PoolPlan

namespace Document

mutual
theorem respelled_ofYaml : {j : Json} → j.Exact → (ofJson j).byName.Respelled (ofYaml j)
  | .null, _ => .scalar .nullWord
  | .bool b, _ => .scalar (.boolWord b)
  | .number n, h => by
    obtain ⟨i, hi⟩ := h
    obtain rfl := Json.ofInt?_eq_some hi
    exact .scalar (.numeral hi)
  | .string s, _ => .scalar (.quoted s)
  | .array _, h => .sequence false (respelledItems_ofYaml h)
  | .object _, h => .mapping (respelledEntries_ofYaml h)
theorem respelledItems_ofYaml : {xs : List Json} → Json.ExactItems xs →
    RespelledItems (byNameItems (ofItems xs)) (ofYamlItems xs)
  | [], _ => .nil
  | _ :: _, h => .cons (respelled_ofYaml h.1) (respelledItems_ofYaml h.2)
theorem respelledEntries_ofYaml : {fs : List (String × Json)} → Json.ExactFields fs →
    RespelledEntries (byNameEntries (ofFields fs)) (ofYamlFields fs)
  | [], _ => .nil
  | (_, _) :: _, h => .cons rfl (respelled_ofYaml h.1) (respelledEntries_ofYaml h.2)
end

end Document

/-- Only an object holds a worker whose records are given by name. -/
theorem Worker.isContainer_of_ofDocument? {j : Json} {w : Worker}
    (h : ofDocument? (Document.ofJson j).byName = some w) : j.IsContainer := by
  cases j with
  | array items => trivial
  | object fields => trivial
  | _ => cases h

namespace Command

theorem readWorker_of_document {files : Files} {path text : String} {document : Document} {w : Worker}
    (hfile : files path = .ok text) (hdocument : Yaml.document? text = some document)
    (hread : Worker.ofDocument? document = some w) : readWorker files path = .ok w := by
  simp only [readWorker, hfile, hdocument, Option.bind_some, hread]

/-- A file with the compact JSON text of a worker holds that worker, if records are given by name, there
are no floats, texts are free of what YAML does not allow on a line, and keys are as short as it wants
them. -/
theorem compact_json_loaded {files : Files} {path : String} {j : Json} {w : Worker}
    (hfile : files path = .ok j.text) (hexact : j.Exact) (hdepth : j.depth ≤ Json.depthLimit)
    (hquotable : j.Quotable) (hread : Worker.ofDocument? (Document.ofJson j).byName = some w) :
    Json.decode? Worker.ofDocument? j.text = some w ∧ readWorker files path = .ok w := by
  constructor
  · rw [Json.decode?, Json.document?_text ⟨hexact, hdepth⟩, Option.bind_some]
    exact Worker.steady (Document.respelled_ofJson j) hread
  · have hdocument : Yaml.document? j.text = some (.ofYaml j) :=
      Yaml.document?_text (Worker.isContainer_of_ofDocument? hread) hexact hquotable
        (Nat.le_succ_of_le hdepth)
    exact readWorker_of_document hfile hdocument
      (Worker.steady (Document.respelled_ofYaml hexact) hread)

/-- A worker given by position is refused, whatever JSON makes of it. -/
theorem positional_worker_refused {files : Files} {path : String} {items : List Json}
    (hfile : files path = .ok (Json.array items).text) (hexact : (Json.array items).Exact)
    (hdepth : (Json.array items).depth ≤ Json.depthLimit) (hquotable : (Json.array items).Quotable) :
    readWorker files path = .error (.invalidWorker path) := by
  have hdocument : Yaml.document? (Json.array items).text = some (.ofYaml (.array items)) :=
    Yaml.document?_text trivial hexact hquotable (Nat.le_succ_of_le hdepth)
  have hrefused : Worker.ofDocument? (.ofYaml (.array items)) = none := rfl
  simp only [readWorker, hfile, hdocument, Option.bind_some, hrefused]

end Command

namespace Sample

def workerValue : Json := .object [
  ("kind", .string "Worker"),
  ("spec", .object [
    ("pools", .array []),
    ("secretRef", .object []),
    ("region", .string "a \"b\"\x01"),
    ("infrastructureProviderStatus", .array [.integer (-5), .null, .bool true])]),
  ("metadata", .object [("name", .string "worker")])]

def workerRead : Worker where
  metadata := { name := some "worker" }
  spec := {
    region := "a \"b\"\x01"
    secretRef := ⟨none, none⟩
    infrastructureProviderStatus := some (.array [.integer (-5), .null, .bool true])
    pools := [] }
  status := none

theorem exact_workerValue : workerValue.Exact :=
  ⟨trivial, ⟨trivial, trivial, trivial, ⟨⟨-5, rfl⟩, trivial, trivial, trivial⟩, trivial⟩,
    ⟨trivial, trivial⟩, trivial⟩

theorem workerValue_loaded :
    workerValue.Quotable ∧ Worker.ofDocument? (Document.ofJson workerValue).byName = some workerRead ∧
      Json.decode? Worker.ofDocument? workerValue.text = some workerRead ∧
      Command.readWorker (fun _ => .ok workerValue.text) "worker.json" = .ok workerRead := by
  have hquotable : workerValue.Quotable := by decide +kernel
  have hread : Worker.ofDocument? (Document.ofJson workerValue).byName = some workerRead := by rfl
  exact ⟨hquotable, hread,
    Command.compact_json_loaded rfl exact_workerValue (by decide) hquotable hread⟩

/-- A worker whose region is written as a surrogate pair. -/
def escapedPair : String :=
  "\x7b\"metadata\":\x7b\x7d,\"spec\":\x7b\"region\":\"\\ud83d\\ude00\",\"secretRef\":\x7b\x7d\x7d\x7d"

/-- JSON text need not be YAML: an escape of YAML is a character, and never half of one. -/
theorem escaped_pair_refused :
    ∃ w, Json.decode? Worker.ofDocument? escapedPair = some w ∧ w.spec.region = "😀" ∧
      Command.readWorker (fun _ => .ok escapedPair) "worker.json" =
        .error (.invalidWorker "worker.json") := by
  have hregion : (Json.decode? Worker.ofDocument? escapedPair).any
      (fun w => w.spec.region = "😀") = true := by decide +kernel
  have htokens : Yaml.tokens? escapedPair.toList = none := by decide +kernel
  cases hw : Json.decode? Worker.ofDocument? escapedPair with
  | none =>
    rw [hw] at hregion
    contradiction
  | some w =>
    rw [hw] at hregion
    refine ⟨w, rfl, of_decide_eq_true hregion, ?_⟩
    simp only [Command.readWorker, Yaml.document?, Yaml.read?, htokens, bind, Option.bind_none]

end Sample
end PoolPlan
