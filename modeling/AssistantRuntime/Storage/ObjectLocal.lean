/-
**The local object store.**

`object_local/driver.py`: an object is a file below the root, written to a temporary file first.
There are no symbolic links, and directories are not modelled.

Main results:

* `readLoop_flatten` — the chunks are what is left of the range;
* `objects_kept` — **an object is written whole or not at all, read as the range that was asked for,
  and found under the segments of its key.**
-/

import Mathlib

namespace AssistantRuntime.Storage.ObjectLocal

open List Function

abbrev Bytes := List UInt8

abbrev Path := List (List Char)

/-- A resolved directory. -/
abbrev Root := { p : Path // ['.', '.'] ∉ p }

abbrev Files := Path → Option Bytes

/-- The parts of a relative `PurePosixPath`: empty segments and `.` do not count. -/
def pathParts (key : List Char) : Path := (key.splitOn '/').filter fun part => part ≠ [] ∧ part ≠ ['.']

def validatedParts (key : List Char) : Except String Path :=
  if key = [] then .error "object_key must be a non-empty relative path"
  else if '\\' ∈ key ∨ '\x00' ∈ key then .error "object_key contains an unsafe path character"
  else if key.head? = some '/' then .error "object_key must be relative"
  else if pathParts key = [] ∨ ∃ part ∈ pathParts key, part = [] ∨ part = ['.'] ∨ part = ['.', '.'] then
    .error "object_key contains an unsafe path segment"
  else .ok (pathParts key)

/-- `Path.resolve` without symbolic links. -/
def resolve (p : Path) : Path :=
  p.foldl (fun q part => if part = ['.', '.'] then q.dropLast else q ++ [part]) []

variable (sha256 : Bytes → String) (root : Root) (files : Files) (key uuid : List Char)

def pathFor : Except String Path := do
  let candidate := resolve (root ++ (← validatedParts key))
  if root.1 <+: candidate then pure candidate else throw "object_key escapes configured storage root"

structure ObjectWriteResult where
  objectKey : List Char
  sizeBytes : ℕ
  sha256 : String
  etag : String

/-- What is uploaded, and how the stream and the file system behave. -/
structure Upload where
  chunks : List Bytes
  contentLength : Option ℤ
  /-- Making the directory and the temporary file. -/
  opened : Except String Unit
  /-- The end of the stream and of the writes. -/
  synced : Except String Unit
  closed : Except String Unit := .ok ()
  /-- The end of renaming the file.  A cancelled `to_thread` raises while its thread goes on, so a
  call that raises comes with whether the file is renamed all the same. -/
  replaced : Except (String × Bool) Unit

/-- The call is cancelled while the file is renamed. -/
def Upload.Interrupted (u : Upload) : Prop := ∃ e, u.replaced = .error (e, true)

def tmpPath : Path := root ++ [".tmp".toList, uuid ++ ".part".toList]

/-- The files after each operation of `put_stream`, and its answer. -/
def putStream (u : Upload) : List Files × Except String ObjectWriteResult :=
  match pathFor root key, u.opened with
  | .error e, _ | .ok _, .error e => ([], .error e)
  | .ok target, .ok () =>
    let tmp := tmpPath root uuid
    let payloads := u.chunks.filter (· ≠ [])
    let written := payloads.inits.map fun done => update files tmp (some done.flatten)
    let removed := update files tmp none
    let renamed := update removed target (some payloads.flatten)
    let size := (payloads.map length).sum
    match u.synced, u.closed, u.contentLength.filter (· ≠ (size : ℤ)), u.replaced with
    | .error e, _, _, _ => (written ++ [removed], .error e)
    | .ok (), .error e, _, _ => (written, .error e)
    | .ok (), .ok (), some n, _ =>
      (written ++ [removed], .error s!"content_length mismatch: expected {n}, wrote {size}")
    -- the temporary file stays where it was not renamed
    | .ok (), .ok (), none, .error (e, goesOn) =>
      (written ++ if goesOn then [renamed] else [], .error e)
    | .ok (), .ok (), none, .ok () =>
      let digest := sha256 payloads.flatten
      (written ++ [renamed], .ok ⟨key, size, digest, digest⟩)

/-- The loop of the iterator; `rest` is what the handle has not read. -/
def readLoop (chunkSize : ℤ) (rest : Bytes) (remaining : Option ℤ) : List Bytes :=
  let readSize := (remaining.elim chunkSize (min chunkSize)).toNat
  if (∀ r ∈ remaining, 0 < r) ∧ rest.take readSize ≠ [] then
    rest.take readSize ::
      readLoop chunkSize (rest.drop readSize) (remaining.map (· - (rest.take readSize).length))
  else []
termination_by rest.length
decreasing_by
  rename_i h
  have := length_pos_iff.2 h.2
  simp only [length_take, length_drop] at *
  omega

/-- The iterator is a function of what the file holds when it is opened. -/
def openStream (byteRange : Option (ℤ × Option ℤ)) (chunkSize : ℤ) :
    Except String (Bytes → List Bytes) :=
  if chunkSize ≤ 0 then .error "chunk_size must be positive"
  else match (pathFor root key).map files, byteRange with
    | .error e, _ => .error e
    | .ok none, _ => .error "No such file or directory"
    | .ok (some _), none => .ok fun opened => readLoop chunkSize opened none
    | .ok (some content), some (start, end_) =>
      if start < 0 ∨ ∃ e ∈ end_, e < start then .error "invalid byte range"
      else if content.length ≤ start then .error "byte range starts beyond end of object"
      else .ok fun opened => readLoop chunkSize (opened.drop start.toNat)
        (end_.map fun e : ℤ => min e (content.length - 1) - start + 1)

/-- The range begins inside the object and does not end before it begins. -/
def ValidRange (size : ℕ) (byteRange : Option (ℤ × Option ℤ)) : Prop :=
  ∀ r ∈ byteRange, 0 ≤ r.1 ∧ r.1 < size ∧ ∀ e ∈ r.2, r.1 ≤ e

/-- The bytes of a range, whose end is included. -/
def bytesOf (content : Bytes) : Option (ℤ × Option ℤ) → Bytes
  | none => content
  | some (start, none) => content.drop start.toNat
  | some (start, some e) => (content.take (e + 1).toNat).drop start.toNat

/-- An upload leaves the object as it was until all of the new one is there.  It is there when the
upload has succeeded; when it has failed, the new object is only there if it was `interrupted`. -/
def Atomic (before : Option Bytes) (p : Path) (content : Bytes) (interrupted : Prop) :
    List Files × Except String ObjectWriteResult → Prop
  | (states, .error _) => ∀ seen ∈ states, seen p = before ∨ interrupted ∧ seen p = some content
  | (states, .ok _) => (∀ seen ∈ states, seen p = before ∨ seen p = some content) ∧
      ∃ last ∈ states.getLast?, last p = some content

/-- The path of the key has all of its segments. -/
def Plain (key : List Char) : Prop := ∀ part ∈ key.splitOn '/', part ≠ [] ∧ part ≠ ['.']

variable {sha256 root files key uuid} {chunkSize : ℤ} {p : Path} {content : Bytes}

/-- **The chunks are what is left of the range.** -/
theorem readLoop_flatten (hpos : 0 < chunkSize) (rest : Bytes) (remaining : Option ℤ) :
    (readLoop chunkSize rest remaining).flatten =
      remaining.elim rest fun r => rest.take r.toNat := by
  fun_induction readLoop chunkSize rest remaining with
  | case1 rest remaining readSize h ih =>
    rw [flatten_cons, ih]
    cases remaining with
    | none => exact take_append_drop _ _
    | some r =>
      -- either the whole chunk was there, or the file ends with it
      have hr := h.1 r rfl
      simp only [readSize, Option.elim, Option.map_some, length_take] at *
      rcases le_total (min chunkSize r).toNat rest.length with hle | hle
      · rw [min_eq_left hle, ← take_add]
        congr 1
        omega
      · have hall : rest.length ≤ r.toNat := hle.trans (Int.toNat_le_toNat (min_le_right _ _))
        simp [take_of_length_le, hle, hall]
  | case2 rest remaining readSize h =>
    have hend : (∀ r ∈ remaining, 0 < r) → rest = [] := fun hr => by
      have hsize : 0 < readSize := by
        cases remaining <;> simp_all [readSize]
      have := not_not.1 (not_and.1 h hr)
      simpa [hsize.ne'] using this
    cases remaining with
    | none => simpa using hend
    | some r =>
      rcases lt_or_ge 0 r with hr | hr
      · simp [hend (by simpa using hr)]
      · simp [Int.toNat_of_nonpos hr]

theorem validatedParts_ok (h : validatedParts key = .ok p) :
    p = pathParts key ∧ p ≠ [] ∧ ['.', '.'] ∉ p := by
  unfold validatedParts at h
  split_ifs at h with _ _ _ hplain
  simp only [not_or, not_exists, not_and] at hplain
  cases h
  exact ⟨rfl, hplain.1, fun hmem => (hplain.2 _ hmem).2.2 rfl⟩

/-- Nothing is resolved in a path without `..`. -/
theorem resolve_eq (h : ['.', '.'] ∉ p) : resolve p = p := by
  suffices ∀ q, p.foldl _ q = q ++ p from this []
  induction p with
  | nil => simp
  | cons part p ih =>
    intro q
    simp only [mem_cons, not_or] at h
    rw [foldl_cons, if_neg (Ne.symm h.1), ih h.2]
    simp

/-- A path is the root with the segments of the key. -/
theorem pathFor_ok (h : pathFor root key = .ok p) :
    p = root ++ pathParts key ∧ pathParts key ≠ [] := by
  cases hparts : validatedParts key with
  | error e => simp [pathFor, hparts, bind, Except.bind] at h
  | ok q =>
    obtain ⟨rfl, hne, hdots⟩ := validatedParts_ok hparts
    have hresolve : resolve (root ++ pathParts key) = root ++ pathParts key :=
      resolve_eq (by simp [root.2, hdots])
    simp [pathFor, hparts, hresolve, bind, Except.bind, pure, Except.pure] at h
    exact ⟨h.symm, hne⟩

theorem putStream_atomic (u : Upload) (hpath : pathFor root key = .ok p)
    (htmp : p ≠ tmpPath root uuid) :
    Atomic (files p) p u.chunks.flatten u.Interrupted
      (putStream sha256 root files key uuid u) := by
  have hwritten : ∀ seen ∈ (u.chunks.filter (· ≠ [])).inits.map fun done =>
      update files (tmpPath root uuid) (some done.flatten), seen p = files p := by
    simp [htmp]
  simp only [putStream, hpath, flatten_filter_ne_nil]
  rcases u.opened with e | ⟨⟩
  · simp [Atomic]
  dsimp only
  split
  · exact forall_mem_append.2 ⟨fun seen h => .inl (hwritten seen h), by simp [htmp]⟩
  · exact fun seen h => .inl (hwritten seen h)
  · exact forall_mem_append.2 ⟨fun seen h => .inl (hwritten seen h), by simp [htmp]⟩
  · next e goesOn _ _ _ hreplaced =>
      refine forall_mem_append.2 ⟨fun seen h => .inl (hwritten seen h), ?_⟩
      cases goesOn <;> simp [Upload.Interrupted, hreplaced]
  · exact ⟨forall_mem_append.2 ⟨fun seen h => .inl (hwritten seen h), by simp⟩, by simp⟩

/-- A read gives the bytes of its range, and fails if the range is not valid. -/
theorem openStream_ok_iff (hpath : pathFor root key = .ok p) (hfile : files p = some content)
    (range : Option (ℤ × Option ℤ)) (bytes : Bytes) :
    (∃ read, openStream root files key range chunkSize = .ok read ∧ (read content).flatten = bytes) ↔
      0 < chunkSize ∧ ValidRange content.length range ∧ bytesOf content range = bytes := by
  rcases le_or_gt chunkSize 0 with hneg | hpos
  · simp [openStream, hneg, hneg.not_gt]
  have hloop := readLoop_flatten hpos
  simp only [openStream, hpath, hfile, hpos, hpos.not_ge, if_false, true_and, Except.map]
  rcases range with _ | ⟨start, end_⟩
  · simp [ValidRange, bytesOf, hloop]
  have hvalid : ValidRange content.length (some (start, end_)) ↔
      ¬(start < 0 ∨ ∃ e ∈ end_, e < start) ∧ ¬content.length ≤ start := by
    simp only [ValidRange, Option.mem_some_iff, forall_eq', not_or, not_lt, not_exists, not_and, not_le]
    tauto
  rw [hvalid]
  dsimp only
  split_ifs with hinvalid hbeyond
  · exact iff_of_false (by simp) fun h => h.1.1 hinvalid
  · exact iff_of_false (by simp) fun h => h.1.2 hbeyond
  · simp only [Except.ok.injEq, exists_eq_left', hloop, hinvalid, hbeyond, not_false_iff, true_and]
    cases end_ with
    | none => rfl
    | some e =>
      -- an end beyond the object stands for its last byte
      have hsame : (content.drop start.toNat).take (min e (content.length - 1) - start + 1).toNat =
          bytesOf content (some (start, some e)) := by
        rw [bytesOf, drop_take, take_eq_take_iff, length_drop]
        omega
      rw [← hsame]
      rfl

/-- **Objects are kept whole, and read as the ranges that are asked for.**  Keys with the same segments
name the same object, and no others do; so keys without empty segments and `.` have objects of their
own. -/
theorem objects_kept (hpath : pathFor root key = .ok p) :
    (root.1 <+: p ∧ p ≠ root) ∧
    (∀ other q, pathFor root other = .ok q → (q = p ↔ pathParts other = pathParts key) ∧
      (Plain key → Plain other → q = p → other = key)) ∧
    (∀ sha256 files uuid u, p ≠ tmpPath root uuid → Atomic (files p) p u.chunks.flatten
      u.Interrupted (putStream sha256 root files key uuid u)) ∧
    ∀ files content range chunkSize bytes, files p = some content →
      ((∃ read, openStream root files key range chunkSize = .ok read ∧
        (read content).flatten = bytes) ↔
        0 < chunkSize ∧ ValidRange content.length range ∧ bytesOf content range = bytes) := by
  obtain ⟨rfl, hne⟩ := pathFor_ok hpath
  refine ⟨⟨prefix_append _ _, by simpa using hne⟩, fun other q hq => ?_,
    fun _ _ _ u htmp => putStream_atomic u hpath htmp,
    fun _ _ range _ bytes hfile => openStream_ok_iff hpath hfile range bytes⟩
  obtain ⟨rfl, -⟩ := pathFor_ok hq
  refine ⟨append_right_inj _, fun hkey hother hsame => ?_⟩
  have hall {k : List Char} (h : Plain k) : pathParts k = k.splitOn '/' :=
    filter_eq_self.2 (by simpa [Plain] using h)
  rw [append_right_inj, hall hkey, hall hother] at hsame
  calc
    other = ['/'].intercalate (other.splitOn '/') := (intercalate_splitOn '/').symm
    _ = ['/'].intercalate (key.splitOn '/') := by rw [hsame]
    _ = key := intercalate_splitOn '/'

/-- An upload that is cancelled while the file is renamed. -/
def interruptedUpload : Upload where
  chunks := [[1], [], [2, 3]]
  contentLength := some 3
  opened := .ok ()
  synced := .ok ()
  replaced := .error ("cancelled", true)

/-- Three bytes replace another object, and the last two of them are read. -/
theorem objects_kept_sample :
    Atomic (some [7]) [['a']] [1, 2, 3] True
      (putStream (fun _ => "") ⟨[], by simp⟩ (fun _ => some [7]) ['a'] ['u'] interruptedUpload) ∧
    ∃ read, openStream ⟨[], by simp⟩ (fun _ => some [1, 2, 3]) ['a'] (some (1, some 9)) 1 = .ok read ∧
      (read [1, 2, 3]).flatten = [2, 3] := by
  have hpath : pathFor ⟨[], by simp⟩ ['a'] = .ok [['a']] := by decide
  obtain ⟨-, -, hput, hread⟩ := objects_kept hpath
  refine ⟨?_, (hread _ [1, 2, 3] _ 1 _ rfl).2 ⟨by decide, ?_, by decide⟩⟩
  · have hatomic := hput (fun _ => "") (fun _ => some [7]) ['u'] interruptedUpload (by decide)
    rwa [show interruptedUpload.Interrupted = True from eq_true ⟨_, rfl⟩] at hatomic
  · rintro _ ⟨⟩
    simp

/-- Two keys of one object. -/
theorem same_object : "a/b".toList ≠ "a//b".toList ∧
    ∃ p, pathFor ⟨[], by simp⟩ "a/b".toList = .ok p ∧ pathFor ⟨[], by simp⟩ "a//b".toList = .ok p :=
  ⟨by decide, [['a'], ['b']], by decide, by decide⟩

end AssistantRuntime.Storage.ObjectLocal
