import Mathlib.Data.List.Basic

/-!
# Sekas.Raftgroup.SnapCreate

`read_file_meta` of `raftgroup/snap/create.rs`: the `SnapshotFile` a snapshot records for each of
its data files, with the file's size and its CRC-32.  The file is read into a `4096`-byte buffer
until a read returns `Ok(0)`; `Interrupted` is retried and any other error returned.  How many
bytes a read hands out is up to the operating system, so the reads are an argument: the answers
of the file's `read` calls, in order.

The hasher is `crc32fast::Hasher`, which is not among the sources; it is modelled from the
CRC-32 it computes (the check value of `"123456789"` is `0xCBF43926`).  `SNAP_DATA` is not among
the sources either, and is a parameter.

* `Hasher.update_append`: hashing two buffers one after the other is hashing them together;
* `readLoop_reads`: the loop sums and hashes exactly the file's bytes, however they are chunked;
* `readFileMeta_reads`: so the recorded size is the file's length and the recorded checksum the
  CRC-32 of its contents, whatever the reads; an error other than `Interrupted` fails the call.
-/

namespace Sekas

/-! ## The hasher -/

/-- `n` rounds of the reflected CRC-32 of IEEE 802.3 (polynomial `0xEDB88320`), one bit each. -/
def crcBits : Nat → UInt32 → UInt32
  | 0, crc => crc
  | n + 1, crc => crcBits n (if crc &&& 1 = 1 then (crc >>> 1) ^^^ 0xEDB88320 else crc >>> 1)

/-- One byte of CRC-32. -/
def crcByte (crc : UInt32) (byte : UInt8) : UInt32 := crcBits 8 (crc ^^^ byte.toUInt32)

/-- `crc32fast::Hasher`: its state is the CRC-32 of the bytes hashed so far, `update`
complements it around the byte loop, and `finalize` returns it.  (The hasher's byte count,
which only `combine` reads, is left out.) -/
structure Hasher where
  state : UInt32
  deriving DecidableEq, Repr

namespace Hasher

/-- `Hasher::new()`. -/
def new : Hasher := ⟨0⟩

/-- `Hasher::update(buf)`. -/
def update (hasher : Hasher) (buf : List UInt8) : Hasher :=
  ⟨~~~ (buf.foldl crcByte (~~~ hasher.state))⟩

/-- `Hasher::finalize()`. -/
def finalize (hasher : Hasher) : UInt32 := hasher.state

theorem complement_complement (x : UInt32) : ~~~ (~~~ x) = x := by
  cases x with
  | mk b => exact congrArg UInt32.mk BitVec.not_not

@[simp] theorem update_nil (hasher : Hasher) : hasher.update [] = hasher := by
  simp [update, complement_complement]

/-- Hashing `a` then `b` is hashing `a ++ b`: the complements between the two cancel. -/
theorem update_append (hasher : Hasher) (a b : List UInt8) :
    (hasher.update a).update b = hasher.update (a ++ b) := by
  simp [update, complement_complement, List.foldl_append]

end Hasher

/-- The CRC-32 of some bytes, hashed in one buffer. -/
def crc32 (data : List UInt8) : UInt32 := (Hasher.new.update data).finalize

set_option maxRecDepth 20000 in
example : crc32 [49, 50, 51, 52, 53, 54, 55, 56, 57] = 0xCBF43926 := by decide

/-! ## The read loop -/

/-- The kinds of `std::io::Error` that `read_file_meta` tells apart. -/
inductive ErrorKind where
  | interrupted
  | invalidInput
  | other
  deriving DecidableEq, Repr

/-- A `std::io::Error`, by its kind.  (The message of the `InvalidInput` error for a name that
is not UTF-8 is left out.) -/
structure IoError where
  kind : ErrorKind
  deriving DecidableEq, Repr

/-- What one `file.read(&mut buf)` returns: `Ok(n)` with the `n` bytes it put in `buf`, or an
error. -/
inductive ReadResult where
  | ok (bytes : List UInt8)
  | err (e : IoError)
  deriving DecidableEq, Repr

/-- `SnapshotFile`. -/
structure SnapshotFile where
  name : String
  crc32 : UInt32
  size : UInt64
  deriving DecidableEq, Repr

/-- The `loop` of `read_file_meta` over the answers of the file's reads: `Interrupted` is
retried, another error returned, `Ok(0)` ends the loop, and `Ok(n)` adds `n` to `size` and
hashes the `n` bytes; `none` when the answers run out first.  (The `yield_now` every ten reads
only hands the thread over, and is left out.) -/
def readLoop : List ReadResult → Hasher → UInt64 → Option (Except IoError (Hasher × UInt64))
  | [], _, _ => none
  | .err e :: reads, hasher, size =>
    if e.kind = .interrupted then readLoop reads hasher size else some (.error e)
  | .ok [] :: _, hasher, size => some (.ok (hasher, size))
  | .ok (b :: bs) :: reads, hasher, size =>
    readLoop reads (hasher.update (b :: bs)) (size + UInt64.ofNat (b :: bs).length)

section ReadFileMeta

variable (snapData : List UInt8)

/-- The name `read_file_meta` records for a file: `SNAP_DATA` for the snapshot's data itself,
`SNAP_DATA/<file name>` for a file of the data directory, and `InvalidInput` for a name that is
not UTF-8. -/
def snapshotFileName (fileName : List UInt8) : Except IoError String :=
  let name := if fileName = snapData then snapData else snapData ++ [47] ++ fileName
  match String.fromUTF8? ⟨name.toArray⟩ with
  | some name => .ok name
  | none => .error ⟨.invalidInput⟩

/-- `read_file_meta` of the file named `fileName`: `file` is what opening it gives, an error or
the answers of its reads. -/
def readFileMeta (fileName : List UInt8) (file : Except IoError (List ReadResult)) :
    Option (Except IoError SnapshotFile) :=
  match file with
  | .error e => some (.error e)
  | .ok reads => (readLoop reads Hasher.new 0).map fun r => do
    let (hasher, size) ← r
    let name ← snapshotFileName snapData fileName
    pure ⟨name, hasher.finalize, size⟩

end ReadFileMeta

/-! ## Any chunking of the file -/

/-- `reads` are the answers of the reads of a file holding `data`, ended by `stop`: the file's
bytes in nonempty chunks with `Interrupted` anywhere between them, then `Ok(0)` (`stop = none`)
or another error (`stop = some e`, `data` being what came before it), then anything. -/
inductive Reads : List ReadResult → List UInt8 → Option IoError → Prop
  | eof (rest : List ReadResult) : Reads (.ok [] :: rest) [] none
  | error (e : IoError) (he : e.kind ≠ .interrupted) (rest : List ReadResult) :
      Reads (.err e :: rest) [] (some e)
  | chunk (b : UInt8) (bs : List UInt8) {reads data stop} :
      Reads reads data stop → Reads (.ok (b :: bs) :: reads) (b :: bs ++ data) stop
  | interrupted (e : IoError) (he : e.kind = .interrupted) {reads data stop} :
      Reads reads data stop → Reads (.err e :: reads) data stop

theorem add_ofNat_add (size : UInt64) (a b : Nat) :
    size + UInt64.ofNat a + UInt64.ofNat b = size + UInt64.ofNat (a + b) :=
  UInt64.eq_of_toBitVec_eq ((BitVec.add_assoc _ _ _).trans (congrArg _ (BitVec.ofNat_add_ofNat ..)))

theorem add_ofNat_zero (size : UInt64) : size + UInt64.ofNat 0 = size :=
  UInt64.eq_of_toBitVec_eq (BitVec.add_zero _)

theorem zero_add_ofNat (n : Nat) : 0 + UInt64.ofNat n = UInt64.ofNat n :=
  UInt64.eq_of_toBitVec_eq (BitVec.zero_add _)

/-- **The loop reads the whole file.**  Until the reads end, the loop adds exactly the file's
bytes to the hasher and their number to `size`, however the reads chunk them. -/
theorem readLoop_reads {reads : List ReadResult} {data : List UInt8} {stop : Option IoError}
    (h : Reads reads data stop) (hasher : Hasher) (size : UInt64) :
    readLoop reads hasher size =
      some (stop.elim (.ok (hasher.update data, size + UInt64.ofNat data.length)) .error) := by
  induction h generalizing hasher size with
  | eof rest =>
    rw [readLoop, List.length_nil, add_ofNat_zero, Hasher.update_nil]
    rfl
  | error e he rest => simp [readLoop, he]
  | chunk b bs _ ih =>
    rw [readLoop, ih, Hasher.update_append, add_ofNat_add, List.length_append]
  | interrupted e he _ ih => rw [readLoop, if_pos he, ih]

/-- **The recorded meta describes the file.**  Whatever the chunks the reads hand out and
however often they are interrupted, `read_file_meta` of a file holding `data` records its
length (modulo `2^64`, as the `u64` counter) and the CRC-32 of its whole contents, under the
file's snapshot name; a read failing with another error fails the call with that error. -/
theorem readFileMeta_reads (snapData fileName : List UInt8) {reads : List ReadResult}
    {data : List UInt8} {stop : Option IoError} (h : Reads reads data stop) :
    readFileMeta snapData fileName (.ok reads) = some (stop.elim
      ((snapshotFileName snapData fileName).map fun name =>
        ⟨name, crc32 data, UInt64.ofNat data.length⟩) .error) := by
  rw [readFileMeta, readLoop_reads h]
  cases stop with
  | none =>
    rw [zero_add_ofNat]
    cases snapshotFileName snapData fileName <;> rfl
  | some e => rfl

/-- The file `DATA` holding `[1, 2, 3]`, read as `[1, 2]`, an interruption, then `[3]`. -/
theorem readFileMeta_reads_interrupted :
    Reads [.ok [1, 2], .err ⟨.interrupted⟩, .ok [3], .ok []] [1, 2, 3] none ∧
      readFileMeta [68, 65, 84, 65] [68, 65, 84, 65]
          (.ok [.ok [1, 2], .err ⟨.interrupted⟩, .ok [3], .ok []]) =
        some ((none : Option IoError).elim
          ((snapshotFileName [68, 65, 84, 65] [68, 65, 84, 65]).map fun name =>
            ⟨name, crc32 [1, 2, 3], UInt64.ofNat [1, 2, 3].length⟩) .error) :=
  have h : Reads [.ok [1, 2], .err ⟨.interrupted⟩, .ok [3], .ok []] [1, 2, 3] none :=
    .chunk 1 [2] (.interrupted _ rfl (.chunk 3 [] (.eof [])))
  ⟨h, readFileMeta_reads [68, 65, 84, 65] [68, 65, 84, 65] h⟩

end Sekas
