import AsioClient.BufferedStream
import AsioClient.HttpClient

/-!
`FileAccess` and the program around it. A `FileAccess` makes its `std::fstream` with `new` and
has no destructor: the stream outlives the object and is never destroyed, so only what has
reached the file by itself is there when the process is gone.
-/

set_option autoImplicit false

namespace AsioClient
open BufferedStream Imperative

/-- `std::fstream`; `stream.file` is what it has passed on to its file so far. -/
structure Fstream where
  path : Bytes
  isOpen : Bool
  stream : Stream UInt8
  deriving DecidableEq, Repr

/-- The streams made with `new`; a pointer is an index. -/
abbrev Heap := List Fstream

structure FileAccess where
  mFilePath : Bytes
  mFileStream : Option Nat
  deriving DecidableEq, Repr

/-- The constructor; `opens` says whether the path can be opened. -/
def FileAccess.new (filePath : Bytes) (opens : Bool) (heap : Heap) : FileAccess × Heap :=
  (⟨filePath, some heap.length⟩, heap ++ [⟨filePath, opens, .empty⟩])

def FileAccess.getFileStream (acces : FileAccess) (heap : Heap) : Option Fstream :=
  acces.mFileStream.bind (heap[·]?)

def FileAccess.writeToFile (acces : FileAccess) (w : Write UInt8) (heap : Heap) : Heap :=
  match acces.mFileStream, acces.getFileStream heap with
  | some i, some strm =>
    if strm.isOpen then heap.set i { strm with stream := strm.stream.write w } else heap
  | _, _ => heap

def FileAccess.writeBytesToFile (acces : FileAccess) (toWrite : Bytes) (held : Nat)
    (heap : Heap) : Heap := acces.writeToFile ⟨toWrite, held⟩ heap

def FileAccess.writeStringToFile (acces : FileAccess) (toWrite : Bytes) (held : Nat)
    (heap : Heap) : Heap := acces.writeToFile ⟨toWrite, held⟩ heap

/-- A call on a `FileAccess`; `held` is what the stream keeps in its buffer afterwards. -/
inductive FileCall where
  | bytes (toWrite : Bytes) (held : Nat)
  | string (toWrite : Bytes) (held : Nat)
  deriving DecidableEq, Repr

def FileCall.exec (acces : FileAccess) (heap : Heap) : FileCall → Heap
  | .bytes toWrite held => acces.writeBytesToFile toWrite held heap
  | .string toWrite held => acces.writeStringToFile toWrite held heap

def FileCall.write : FileCall → Write UInt8
  | .bytes toWrite held => ⟨toWrite, held⟩
  | .string toWrite held => ⟨toWrite, held⟩

/-- The implicit destructor: a plain pointer goes and what it points at stays. -/
def FileAccess.destroy (_ : FileAccess) (heap : Heap) : Heap := heap

def fileScope (filePath : Bytes) (opens : Bool) (calls : List FileCall) (heap : Heap) : Heap :=
  let (acces, heap) := FileAccess.new filePath opens heap
  acces.destroy (calls.foldl (fun heap call => call.exec acces heap) heap)

/-- The files once the process has exited; objects made with `new` are not destroyed then. -/
def filesAfterExit (heap : Heap) : List Bytes := heap.map fun strm => strm.stream.file

structure ConsoleInput where
  url : Bytes
  filePath : Bytes

/-- `main`, with the exit code and the heap it leaves. -/
def SocketLayer.mainProgram {σ : Type} (L : SocketLayer σ) (fuel : Nat) (input : ConsoleInput)
    (opens : Bool) (held : Nat) : EStateM Halt σ (Int32 × Heap) := do
  if input.url.length < 1 then pure (2, [])
  else do
    let result ← L.downloadByteData fuel input.url 80
    if 0 < result.length then
      if input.filePath.isEmpty then pure (0, [])
      else pure (0, fileScope input.filePath opens [.bytes result held] [])
    else pure (0, [])

abbrev mainProgram : Nat → ConsoleInput → Bool → Nat → Exec (Int32 × Heap) :=
  scriptedLayer.mainProgram

theorem FileCall.exec_open (filePath : Bytes) (before : Heap) (s : Stream UInt8)
    (call : FileCall) :
    call.exec ⟨filePath, some before.length⟩ (before ++ [⟨filePath, true, s⟩]) =
      before ++ [⟨filePath, true, s.write call.write⟩] := by
  cases call with
  | bytes toWrite held =>
    simp [exec, FileCall.write, FileAccess.writeBytesToFile, FileAccess.writeToFile,
      FileAccess.getFileStream]
  | string toWrite held =>
    simp [exec, FileCall.write, FileAccess.writeStringToFile, FileAccess.writeToFile,
      FileAccess.getFileStream]

theorem fileScope_open (filePath : Bytes) (calls : List FileCall) (heap : Heap) :
    fileScope filePath true calls heap =
      heap ++ [⟨filePath, true, Stream.empty.writeAll (calls.map FileCall.write)⟩] := by
  have hrun : ∀ s : Stream UInt8,
      calls.foldl (fun h call => call.exec ⟨filePath, some heap.length⟩ h)
          (heap ++ [⟨filePath, true, s⟩]) =
        heap ++ [⟨filePath, true, s.writeAll (calls.map FileCall.write)⟩] := by
    induction calls with
    | nil =>
      intro s
      rfl
    | cons call calls ih =>
      intro s
      rw [List.foldl_cons, FileCall.exec_open, ih]
      rfl
  exact hrun .empty

def writtenContents (calls : List FileCall) : Bytes :=
  (calls.map FileCall.write).flatMap Write.data

theorem filesAfterExit_fileScope_iff (filePath : Bytes) (calls : List FileCall) :
    filesAfterExit (fileScope filePath true calls []) = [writtenContents calls] ↔
      Drained (calls.map FileCall.write) := by
  rw [fileScope_open]
  simp only [filesAfterExit, List.nil_append, List.map_cons, List.map_nil, List.cons.injEq,
    and_true]
  exact Stream.file_writeAll_iff _

theorem mainProgram_saves {fuel held : Nat} {input : ConsoleInput} {opens : Bool} {w after : World}
    {body : Bytes} (hurl : input.url ≠ []) (hpath : input.filePath ≠ []) (hbody : body ≠ [])
    (hdown : (downloadByteData fuel input.url 80).run w = .ok body after) :
    (mainProgram fuel input opens held).run w =
      .ok (0, fileScope input.filePath opens [.bytes body held] []) after := by
  have hlen : ¬ input.url.length < 1 := by
    have := List.length_pos_iff.2 hurl
    omega
  have hpos : 0 < body.length := List.length_pos_iff.2 hbody
  unfold mainProgram SocketLayer.mainProgram
  simp [hlen, hdown, hpos, hpath]

theorem drained_single_iff {body : Bytes} (hbody : body ≠ []) (held : Nat) :
    Drained ([FileCall.bytes body held].map FileCall.write) ↔ held = 0 := by
  have hconcat := drained_concat_iff [] (FileCall.write (.bytes body held))
  rw [List.nil_append] at hconcat
  rw [List.map_singleton, hconcat]
  simp [FileCall.write, hbody]

theorem file_complete_iff (filePath : Bytes) (calls : List FileCall) :
    (filesAfterExit (fileScope filePath true calls []) = [writtenContents calls] ↔
      Drained (calls.map FileCall.write)) ∧
    ∀ fuel input held w body after, input.url ≠ [] → input.filePath ≠ [] → body ≠ [] →
      (downloadByteData fuel input.url 80).run w = .ok body after →
      ∃ heap, (mainProgram fuel input true held).run w = .ok (0, heap) after ∧
        (filesAfterExit heap = [body] ↔ held = 0) := by
  refine ⟨filesAfterExit_fileScope_iff filePath calls, ?_⟩
  intro fuel input held w body after hurl hpath hbody hdown
  refine ⟨_, mainProgram_saves hurl hpath hbody hdown, ?_⟩
  have hcontents : writtenContents [.bytes body held] = body := by
    simp [writtenContents, FileCall.write]
  have hscope := filesAfterExit_fileScope_iff input.filePath [.bytes body held]
  rw [hcontents] at hscope
  rw [hscope, drained_single_iff hbody]

theorem file_complete_unbuffered :
    let net := NetworkScript.serving [⟨text "H\r\n\r\na", by decide⟩] .eof
    filesAfterExit (fileScope (text "f") true [.bytes (text "a") 1, .string (text "b") 0] []) =
        [text "ab"] ∧
      ∃ heap after, (mainProgram 9 ⟨text "http://a/", text "f"⟩ true 0).run (World.init net) =
          .ok (0, heap) after ∧ filesAfterExit heap = [text "a"] := by
  intro net
  have hdrained : Drained
      (List.map FileCall.write [.bytes (text "a") 1, .string (text "b") 0]) :=
    (drained_concat_iff [FileCall.write (.bytes (text "a") 1)] _).2 (.inl rfl)
  have hsaved := file_complete_iff (text "f") [.bytes (text "a") 1, .string (text "b") 0]
  have hdown : (downloadByteData 9 (text "http://a/") 80).run (World.init net) =
      .ok (text "a") (endState ((downloadByteData 9 (text "http://a/") 80).run
        (World.init net))) := rfl
  obtain ⟨heap, hrun, hiff⟩ := hsaved.2 9 ⟨text "http://a/", text "f"⟩ 0
    (World.init net) (text "a") _ (by decide) (by decide) (by decide) hdown
  exact ⟨hsaved.1.2 hdrained, heap, _, hrun, hiff.2 rfl⟩

/-- The downloaded byte waits in the buffer when `main` returns, and the file stays empty. -/
theorem file_left_empty :
    let net := NetworkScript.serving [⟨text "H\r\n\r\na", by decide⟩] .eof
    ∃ heap after, (mainProgram 9 ⟨text "http://a/", text "f"⟩ true 1).run (World.init net) =
        .ok (0, heap) after ∧
      heap = fileScope (text "f") true [.bytes (text "a") 1] [] ∧
      filesAfterExit heap = [[]] ∧
      filesAfterExit heap ≠ [writtenContents [.bytes (text "a") 1]] := by
  intro net
  exact ⟨_, _, rfl, by decide, by decide, by decide⟩

end AsioClient
