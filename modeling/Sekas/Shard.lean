import Sekas.Api

/-!
# Sekas.Shard

Key containment in a shard's range.  `sekas_schema::shard` is not among the sources; its
`belong_to` is modelled from the spec: ranges are byte-lexicographic and half-open,
`[start, end)`, an empty `end` standing for +∞ (an empty `start` is below every key anyway).
Keys compare as Rust compares `[u8]` slices, which `bytesLt` spells out; it is core's
lexicographic `List.lt` on bytes (`bytesLt_iff_lt`).
-/

namespace Sekas

/-- Byte strings compare lexicographically, as Rust's `[u8]` slices do: the first differing
byte decides, and a proper prefix comes first. -/
def bytesLt : List UInt8 → List UInt8 → Bool
  | [], [] => false
  | [], _ :: _ => true
  | _ :: _, [] => false
  | a :: as, b :: bs => decide (a.toNat < b.toNat) || (a == b && bytesLt as bs)

/-- `bytesLt` is the lexicographic order on bytes. -/
theorem bytesLt_iff_lt : ∀ {as bs : List UInt8}, bytesLt as bs = true ↔ List.lt as bs
  | [], [] => ⟨fun h => (by cases h), fun h => (by cases h)⟩
  | [], _ :: _ => ⟨fun _ => .nil _ _, fun _ => rfl⟩
  | _ :: _, [] => ⟨fun h => (by cases h), fun h => (by cases h)⟩
  | a :: as, b :: bs => by
    have hab : ¬ a < b → ¬ b < a → a = b := fun h h' =>
      UInt8.toNat.inj (Nat.le_antisymm (Nat.not_lt.mp h') (Nat.not_lt.mp h))
    simp only [bytesLt, Bool.or_eq_true, decide_eq_true_eq, Bool.and_eq_true, beq_iff_eq,
      bytesLt_iff_lt]
    constructor
    · rintro (h | ⟨rfl, h⟩)
      · exact .head _ _ h
      · exact .tail (Nat.lt_irrefl _) (Nat.lt_irrefl _) h
    · intro h
      cases h with
      | head _ _ h => exact .inl h
      | tail h h' ht => exact .inr ⟨hab h h', ht⟩

/-- A common prefix does not decide the order. -/
@[simp] theorem bytesLt_append_left (p as bs : List UInt8) : bytesLt (p ++ as) (p ++ bs) = bytesLt as bs := by
  induction p with
  | nil => rfl
  | cons a p ih => simp [bytesLt, ih]

/-- Modelled from the spec: `sekas_schema::shard::belong_to` (not in the sources).  A key
belongs to a shard when `start ≤ key` and either `key < end` or `end` is empty. -/
def belongTo (shard : ShardDesc) (key : List UInt8) : Bool :=
  !bytesLt key shard.range.start && (bytesLt key shard.range.«end» || shard.range.«end».isEmpty)

/-- `belongTo` as a proposition on the range's bounds. -/
theorem belongTo_iff (shard : ShardDesc) (key : List UInt8) :
    belongTo shard key = true ↔
      ¬ List.lt key shard.range.start ∧
        (List.lt key shard.range.«end» ∨ shard.range.«end» = []) := by
  simp [belongTo, ← bytesLt_iff_lt]

end Sekas
