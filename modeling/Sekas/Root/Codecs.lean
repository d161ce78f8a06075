import Sekas.Root.GroupState

/-!
# Sekas.Root.Codecs

The protobuf encodings of the descriptors are not among the sources, and the schema takes them as
an argument (`Codecs`).  To state the schema's results on concrete stores, this module gives one
choice of them: self-delimiting encodings built from a few combinators, each of which decodes
what it encodes and leaves the bytes after it (`PrefixCodec.decode_encode`).
-/

namespace Sekas

variable {α β : Type}

/-- A self-delimiting encoding: decoding an encoding followed by more bytes gives the value back
and the bytes after it. -/
structure PrefixCodec (α : Type) where
  encode : α → Bytes
  decode : Bytes → Option (α × Bytes)
  decode_encode : ∀ a rest, decode (encode a ++ rest) = some (a, rest)

namespace PrefixCodec

/-- Read a number in unary: ones, then a zero. -/
def readUnary : Bytes → Option (Nat × Bytes)
  | [] => none
  | b :: rest => if b = 0 then some (0, rest) else (readUnary rest).map fun (n, rest) => (n + 1, rest)

/-- A number in unary. -/
def nat : PrefixCodec Nat where
  encode n := List.replicate n 1 ++ [0]
  decode := readUnary
  decode_encode n rest := by
    induction n with
    | zero => rfl
    | succ n ih =>
      simp only [List.append_assoc, List.singleton_append] at ih
      simp [List.replicate_succ, readUnary, ih]

/-- A `u64`, little-endian. -/
def u64 : PrefixCodec UInt64 := ⟨u64ToLeBytes, Schema.readU64, Schema.readU64_append⟩

/-- A byte as itself. -/
def byte : PrefixCodec UInt8 where
  encode b := [b]
  decode
    | [] => none
    | b :: rest => some (b, rest)
  decode_encode _ _ := rfl

/-- Two values, one after the other. -/
def pair (p : PrefixCodec α) (q : PrefixCodec β) : PrefixCodec (α × β) where
  encode x := p.encode x.1 ++ q.encode x.2
  decode bytes := do
    let (a, bytes) ← p.decode bytes
    let (b, bytes) ← q.decode bytes
    pure ((a, b), bytes)
  decode_encode x rest := by simp [p.decode_encode, q.decode_encode]

/-- `n` values, one after the other. -/
def readN (p : PrefixCodec α) : Nat → Bytes → Option (List α × Bytes)
  | 0, bytes => some ([], bytes)
  | n + 1, bytes => do
    let (a, bytes) ← p.decode bytes
    let (as, bytes) ← readN p n bytes
    pure (a :: as, bytes)

theorem readN_flatten (p : PrefixCodec α) (as : List α) (rest : Bytes) :
    readN p as.length ((as.map p.encode).flatten ++ rest) = some (as, rest) := by
  induction as with
  | nil => rfl
  | cons a as ih => simp [readN, p.decode_encode, ih]

/-- A list: its length, then its elements. -/
def list (p : PrefixCodec α) : PrefixCodec (List α) where
  encode as := nat.encode as.length ++ (as.map p.encode).flatten
  decode bytes := do
    let (n, bytes) ← nat.decode bytes
    readN p n bytes
  decode_encode as rest := by simp [nat.decode_encode, readN_flatten]

/-- The encoding of `α` carried to `β` by a left inverse `f` of `g`. -/
def map (p : PrefixCodec α) (f : α → β) (g : β → α) (h : ∀ b, f (g b) = b) : PrefixCodec β where
  encode b := p.encode (g b)
  decode bytes := (p.decode bytes).map fun (a, rest) => (f a, rest)
  decode_encode b rest := by simp [p.decode_encode, h]

/-- A string: its characters' code points. -/
def string : PrefixCodec String :=
  (list (nat.map Char.ofNat Char.toNat Char.ofNat_toNat)).map String.mk String.toList fun _ => rfl

/-- The whole-message `Codec` of a self-delimiting encoding. -/
def codec (p : PrefixCodec α) : Codec α where
  encode := p.encode
  decode bytes := (p.decode bytes).map Prod.fst
  decode_encode a := by simpa using congrArg (Option.map Prod.fst) (p.decode_encode a [])

end PrefixCodec

open PrefixCodec

/-- An encoding of `DatabaseDesc`. -/
def databaseDescCodec : PrefixCodec DatabaseDesc :=
  (pair u64 string).map (fun (id, name) => ⟨id, name⟩) (fun d => (d.id, d.name)) fun _ => rfl

/-- An encoding of `CollectionDesc`. -/
def collectionDescCodec : PrefixCodec CollectionDesc :=
  (pair u64 (pair string u64)).map (fun (id, name, parentId) => ⟨id, name, parentId⟩)
    (fun c => (c.id, c.name, c.parentId)) fun _ => rfl

/-- An encoding of `NodeDesc`. -/
def nodeDescCodec : PrefixCodec NodeDesc :=
  (pair u64 string).map (fun (id, addr) => ⟨id, addr⟩) (fun n => (n.id, n.addr)) fun _ => rfl

/-- An encoding of `GroupDesc`. -/
def groupDescCodec : PrefixCodec GroupDesc :=
  let replica : PrefixCodec ReplicaDesc :=
    (pair nat nat).map (fun (id, nodeId) => ⟨id, nodeId⟩) (fun r => (r.id, r.nodeId)) fun _ => rfl
  let shard : PrefixCodec ShardDesc :=
    (pair nat (pair nat (pair (list byte) (list byte)))).map
      (fun (id, parentId, start, e) => ⟨id, parentId, ⟨start, e⟩⟩)
      (fun s => (s.id, s.parentId, s.range.start, s.range.«end»)) fun _ => rfl
  (pair nat (pair u64 (pair (list replica) (list shard)))).map
    (fun (id, epoch, replicas, shards) => ⟨id, epoch, replicas, shards⟩)
    (fun g => (g.id, g.epoch, g.replicas, g.shards)) fun _ => rfl

/-- The descriptors' encodings to state the schema's results on. -/
def exampleCodecs : Codecs :=
  ⟨databaseDescCodec.codec, collectionDescCodec.codec, nodeDescCodec.codec, groupDescCodec.codec,
    Schema.fixedReplicaStateCodec⟩

end Sekas
