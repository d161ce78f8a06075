import Sekas.Shard
import Mathlib.Data.List.AList
import Mathlib.Data.List.Sort

/-!
# Sekas.Root.Store

The root's key-value store as the schema uses it, and the little-endian `u64` encoding its
keys are built from.

`RootStore` itself (`root/store.rs`) is not among the sources.  It is modelled from how the
schema uses it: a map from byte keys to byte values, whose `get`, `delete` and `batch_write`
read and write single keys, and whose `list` returns the value of every key that starts with a
given prefix.  The store is backed by RocksDB, whose default comparator orders keys bytewise, so
`list` walks them in that order (`bytesLt`), whatever order they were written in.  Its methods
are `async` and return a `Result`; here they do not fail.
-/

namespace Sekas

/-- A byte string: `Vec<u8>`, or `&[u8]`. -/
abbrev Bytes := List UInt8

/-! ## Little-endian `u64` -/

/-- The `n` low bytes of `x`, least significant first. -/
def leBytes : Nat → Nat → Bytes
  | 0, _ => []
  | n + 1, x => (x % 256).toUInt8 :: leBytes n (x / 256)

/-- The number whose bytes, least significant first, are `bytes`. -/
def leValue : Bytes → Nat
  | [] => 0
  | b :: bytes => b.toNat + 256 * leValue bytes

/-- `u64::to_le_bytes`. -/
def u64ToLeBytes (x : UInt64) : Bytes := leBytes 8 x.toNat

/-- `u64::from_le_bytes` of a slice, after the `try_into` that takes exactly eight bytes. -/
def u64FromLeBytes (bytes : Bytes) : Option UInt64 :=
  if bytes.length = 8 then some (leValue bytes).toUInt64 else none

@[simp] theorem length_leBytes (n x : Nat) : (leBytes n x).length = n := by
  induction n generalizing x <;> simp [leBytes, *]

/-- Reading `n` bytes back gives the value modulo `256 ^ n`. -/
theorem leValue_leBytes (n x : Nat) : leValue (leBytes n x) = x % 256 ^ n := by
  induction n generalizing x with
  | zero => simp [leBytes, leValue, Nat.mod_one]
  | succ n ih =>
    have hbyte : (x % 256).toUInt8.toNat = x % 256 :=
      UInt8.toNat_ofNat_of_lt (Nat.mod_lt _ (by decide))
    rw [leBytes, leValue, ih, hbyte, Nat.pow_succ', Nat.mod_mul]

@[simp] theorem length_u64ToLeBytes (x : UInt64) : (u64ToLeBytes x).length = 8 :=
  length_leBytes 8 _

/-- **`from_le_bytes` undoes `to_le_bytes`.** -/
@[simp] theorem u64FromLeBytes_u64ToLeBytes (x : UInt64) :
    u64FromLeBytes (u64ToLeBytes x) = some x := by
  have hlt : x.toNat < 256 ^ 8 := x.toNat_lt_size
  rw [u64FromLeBytes, if_pos (length_u64ToLeBytes x), u64ToLeBytes, leValue_leBytes,
    Nat.mod_eq_of_lt hlt]
  exact congrArg some (UInt64.toNat.inj (UInt64.toNat_ofNat_of_lt hlt))

/-- Distinct ids have distinct byte strings. -/
theorem u64ToLeBytes_injective : Function.Injective u64ToLeBytes := fun x y h =>
  Option.some.inj (by rw [← u64FromLeBytes_u64ToLeBytes x, h, u64FromLeBytes_u64ToLeBytes])

/-- `isPrefixOf` holds exactly when the key continues the prefix. -/
theorem isPrefixOf_iff {pfx key : Bytes} : pfx.isPrefixOf key = true ↔ ∃ rest, key = pfx ++ rest := by
  induction pfx generalizing key with
  | nil => simp [List.isPrefixOf]
  | cons a pfx ih =>
    cases key with
    | nil => simp [List.isPrefixOf]
    | cons b key =>
      simp only [List.isPrefixOf, Bool.and_eq_true, beq_iff_eq, ih, List.cons_append,
        List.cons.injEq, exists_and_left]
      exact ⟨fun ⟨h1, h2⟩ => ⟨h1.symm, h2⟩, fun ⟨h1, h2⟩ => ⟨h1.symm, h2⟩⟩

/-! ## The store -/

/-- Modelled from the spec: `root::store::RootStore` (not in the sources), a map from byte keys
to byte values; each key holds at most one value. -/
abbrev RootStore := AList fun _ : Bytes => Bytes

namespace RootStore

/-- Modelled from the spec: `RootStore::get`, the value of a key. -/
def get (store : RootStore) (key : Bytes) : Option Bytes := store.lookup key

/-- Modelled from the spec: `RootStore::delete`, which removes a key. -/
def delete (store : RootStore) (key : Bytes) : RootStore := store.erase key

/-- Modelled from the spec: `RootStore::batch_write` of a batch of puts, applied in order. -/
def batchWrite (store : RootStore) (puts : List PutRequest) : RootStore :=
  puts.foldl (fun store put => store.insert put.key put.value) store

/-- Keys in the order RocksDB's bytewise comparator scans them. -/
def ScanOrder (a b : Bytes) : Prop := bytesLt b a = false

instance decidableScanOrder : DecidableRel ScanOrder := fun a b =>
  inferInstanceAs (Decidable (bytesLt b a = false))

/-- Modelled from the spec: `RootStore::list`, the value of every key that starts with `pfx`, in
the byte order of the keys. -/
def list (store : RootStore) (pfx : Bytes) : List Bytes :=
  ((store.keys.filter pfx.isPrefixOf).insertionSort ScanOrder).filterMap store.get

variable {store : RootStore} {key key' pfx v : Bytes} {puts : List PutRequest}

@[simp] theorem get_empty : (∅ : RootStore).get key = none := AList.lookup_empty key

@[simp] theorem get_delete_self : (store.delete key).get key = none := AList.lookup_erase key store

theorem get_delete_ne (h : key' ≠ key) : (store.delete key).get key' = store.get key' :=
  AList.lookup_erase_ne h

/-- **What a batch leaves in a key**: the value of its last put of the key, or else what was
there. -/
theorem get_batchWrite :
    (store.batchWrite puts).get key =
      ((puts.reverse.find? (·.key = key)).map (·.value)).or (store.get key) := by
  induction puts generalizing store with
  | nil => rfl
  | cons put puts ih =>
    rw [batchWrite, List.foldl_cons, ← batchWrite, ih, List.reverse_cons, List.find?_append,
      Option.map_or', Option.or_assoc]
    congr 1
    by_cases hk : put.key = key
    · subst hk
      simp [get, AList.lookup_insert]
    · simp [get, AList.lookup_insert_ne (Ne.symm hk), hk]

/-- A batch leaves alone every key it does not put. -/
theorem get_batchWrite_of_forall_ne (h : ∀ put ∈ puts, put.key ≠ key) :
    (store.batchWrite puts).get key = store.get key := by
  rw [get_batchWrite, List.find?_eq_none.mpr (by simpa using h)]
  rfl

/-- **What `list` returns.**  A value is listed under `pfx` exactly when a key continuing
`pfx` holds it. -/
theorem mem_list_iff : v ∈ store.list pfx ↔ ∃ rest, store.get (pfx ++ rest) = some v := by
  simp only [list, List.mem_filterMap, (List.perm_insertionSort ScanOrder _).mem_iff,
    List.mem_filter]
  constructor
  · rintro ⟨k, ⟨-, hp⟩, h⟩
    obtain ⟨rest, rfl⟩ := isPrefixOf_iff.mp hp
    exact ⟨rest, h⟩
  · rintro ⟨rest, h⟩
    have hkey : pfx ++ rest ∈ store.keys := List.mem_keys_of_mem (AList.mem_lookup_iff.mp h)
    exact ⟨pfx ++ rest, ⟨hkey, isPrefixOf_iff.mpr ⟨rest, rfl⟩⟩, h⟩

end RootStore

end Sekas
