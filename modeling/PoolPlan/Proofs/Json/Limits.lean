import PoolPlan.Proofs.Class.Spec

namespace PoolPlan

def Json.Number.Limited (n : Json.Number) : Prop := ∀ i, n = .integer i → ofInt? i = some n

def Scalar.Limited : Scalar → Prop
  | .number n => n.Limited
  | .written .. => False
  | _ => True

mutual
/-- A document as JSON text can say it, with no more than `room` containers around each other. -/
def Document.Limited (room : Nat) : Document → Prop
  | .scalar s => s.Limited
  | .sequence _ items => 0 < room ∧ Document.LimitedItems (room - 1) items
  | .mapping entries => 0 < room ∧ Document.LimitedEntries (room - 1) entries
  | .tagged _ _ => False
def Document.LimitedItems (room : Nat) : List Document → Prop
  | [] => True
  | d :: ds => d.Limited room ∧ Document.LimitedItems room ds
def Document.LimitedEntries (room : Nat) : List (Document × Document) → Prop
  | [] => True
  | (k, d) :: es => (k.Limited room ∧ d.Limited room) ∧ Document.LimitedEntries room es
end

namespace Document

theorem limitedItems_iff {room : Nat} {items : List Document} :
    LimitedItems room items ↔ ∀ d ∈ items, d.Limited room := by
  induction items with
  | nil => simp [LimitedItems]
  | cons d ds ih => simp [LimitedItems, ih]

theorem limitedEntries_iff {room : Nat} {entries : List (Document × Document)} :
    LimitedEntries room entries ↔ ∀ e ∈ entries, e.1.Limited room ∧ e.2.Limited room := by
  induction entries with
  | nil => simp [LimitedEntries]
  | cons e es ih =>
    obtain ⟨k, d⟩ := e
    simp [LimitedEntries, ih]

end Document

namespace Json

theorem limited_of_ofInt? {i : Int} {v : Number} (h : Number.ofInt? i = some v) : v.Limited := by
  obtain rfl := ofInt?_eq_some h
  intro j hj
  cases hj
  exact h

/-- An integer that is not kept as one becomes a float. -/
theorem limited_of_value? {n : Numeral} {v : Number} (h : n.value? = some v) : v.Limited := by
  have hfloat (hf : n.float?.map .float = some v) : v.Limited := by
    obtain ⟨x, -, rfl⟩ := Option.map_eq_some_iff.1 hf
    intro i hi
    cases hi
  simp only [Numeral.value?] at h
  generalize (if n.negative = true then -(Nat.ofDigitChars 10 n.whole 0 : Int)
    else (Nat.ofDigitChars 10 n.whole 0 : Int)) = whole at h
  by_cases hinteger : (n.isInteger && !(n.negative && whole == 0)) = true
  · rw [if_pos hinteger] at h
    cases hw : Number.ofInt? whole with
    | some w =>
      rw [hw] at h
      exact Option.some.inj h ▸ limited_of_ofInt? hw
    | none =>
      rw [hw] at h
      exact hfloat h
  · rw [if_neg hinteger] at h
    exact hfloat h

theorem limited_of_numberNode? {cs rest : List Char} {d : Document} (room : Nat)
    (h : numberNode? cs = some (d, rest)) : d.Limited room := by
  unfold numberNode? at h
  split at h
  · cases h
  · split at h
    · rename_i v hv
      cases h
      exact limited_of_value? hv
    · cases h
      trivial

theorem limited_of_stringNode? {cs rest : List Char} {d : Document} (room : Nat)
    (h : stringNode? cs = some (d, rest)) : d.Limited room := by
  unfold stringNode? at h
  split at h
  · cases h
  · split at h
    all_goals
      cases h
      trivial

/-- A container that was read with one level less is within the limits, or is not kept. -/
theorem limited_bounded {room : Nat} {d : Document} (h : 0 < room → d.Limited room) :
    (bounded room d).Limited room := by
  cases room with
  | zero => trivial
  | succ room => exact h (Nat.succ_pos room)

mutual
theorem limited_of_node? (fuel room : Nat) {cs rest : List Char} {d : Document}
    (h : node? fuel room cs = some (d, rest)) : d.Limited room := by
  cases fuel with
  | zero => simp [node?] at h
  | succ fuel =>
    unfold node? at h
    split at h
    · cases h
      trivial
    · cases h
      trivial
    · cases h
      trivial
    · exact limited_of_stringNode? room h
    · split at h
      · cases h
        exact limited_bounded fun hroom => ⟨hroom, trivial⟩
      · split at h
        · cases h
        · rename_i d left hnode
          split at h
          · cases h
          · rename_i ds last hmore
            cases h
            have hd := limited_of_node? fuel (room - 1) hnode
            have hds := limited_of_moreNodes? fuel (room - 1) hmore
            exact limited_bounded fun hroom => ⟨hroom, hd, hds⟩
    · split at h
      · cases h
        exact limited_bounded fun hroom => ⟨hroom, trivial⟩
      · split at h
        · cases h
        · rename_i e left hentry
          split at h
          · cases h
          · rename_i es last hmore
            cases h
            have he := limited_of_entry fuel (room - 1) hentry
            have hes := limited_of_moreEntries? fuel (room - 1) hmore
            exact limited_bounded fun hroom => ⟨hroom, he, hes⟩
    · exact limited_of_numberNode? room h
theorem limited_of_moreNodes? (fuel room : Nat) {cs rest : List Char} {ds : List Document}
    (h : moreNodes? fuel room cs = some (ds, rest)) : Document.LimitedItems room ds := by
  cases fuel with
  | zero => simp [moreNodes?] at h
  | succ fuel =>
    unfold moreNodes? at h
    split at h
    · cases h
      trivial
    · split at h
      · cases h
      · rename_i d left hnode
        split at h
        · cases h
        · rename_i es last hmore
          cases h
          exact ⟨limited_of_node? fuel room hnode, limited_of_moreNodes? fuel room hmore⟩
    · cases h
theorem limited_of_entry (fuel room : Nat) {cs rest : List Char} {e : Document × Document}
    (h : entry? fuel room cs = some (e, rest)) : e.1.Limited room ∧ e.2.Limited room := by
  cases fuel with
  | zero => simp [ entry?] at h
  | succ fuel =>
    unfold entry? at h
    split at h
    · split at h
      · cases h
      · rename_i k left hkey
        split at h
        · split at h
          · cases h
          · rename_i d last hnode
            cases h
            exact ⟨limited_of_stringNode? room hkey, limited_of_node? fuel room hnode⟩
        · cases h
    · cases h
theorem limited_of_moreEntries? (fuel room : Nat) {cs rest : List Char}
    {es : List (Document × Document)} (h : moreEntries? fuel room cs = some (es, rest)) :
    Document.LimitedEntries room es := by
  cases fuel with
  | zero => simp [moreEntries?] at h
  | succ fuel =>
    unfold moreEntries? at h
    split at h
    · cases h
      trivial
    · split at h
      · cases h
      · rename_i e left hentry
        split at h
        · cases h
        · rename_i fs last hmore
          cases h
          exact ⟨limited_of_entry fuel room hentry, limited_of_moreEntries? fuel room hmore⟩
    · cases h
end

theorem limited_of_document? {text : String} {d : Document} (h : document? text = some d) :
    d.Limited depthLimit := by
  unfold document? read? at h
  split at h
  · rename_i e rest hnode
    split at h
    · cases h
      exact limited_of_node? _ _ hnode
    · cases h
  · cases h

end Json
end PoolPlan
