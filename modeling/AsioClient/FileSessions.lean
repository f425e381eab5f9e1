import AsioClient.FileAccess

/-!
Several `FileAccess` objects at once, over the files of a disk. The class has the implicit copy
operations: a copy has the pointer of its original, so that both write to one stream; and two
streams may have one path, and then one file. What a program of such objects leaves behind is
told by sessions, one for each constructor that was run.
-/

set_option autoImplicit false

namespace AsioClient
open BufferedStream

abbrev Disk := Bytes → Option Bytes

namespace Disk

def set (disk : Disk) (path file : Bytes) : Disk := fun p => if p = path then some file else disk p

/-- `std::ios::out` empties the file, or makes it. -/
def truncate (disk : Disk) (path : Bytes) : Disk := disk.set path []

/-- Bytes written at an offset replace what is there; a gap in front of them reads as zeros. -/
def patch (file : Bytes) (offset : Nat) (data : Bytes) : Bytes :=
  file.take offset ++ List.replicate (offset - file.length) 0 ++ data ++
    file.drop (offset + data.length)

def write (disk : Disk) (path : Bytes) (offset : Nat) (data : Bytes) : Disk :=
  if data = [] then disk else disk.set path (patch ((disk path).getD []) offset data)

@[simp] theorem set_self (disk : Disk) (path file : Bytes) : disk.set path file path = some file :=
  if_pos rfl

theorem set_ne (disk : Disk) {path p : Bytes} (h : p ≠ path) (file : Bytes) :
    disk.set path file p = disk p := if_neg h

theorem write_ne (disk : Disk) {path p : Bytes} (h : p ≠ path) (offset : Nat) (data : Bytes) :
    disk.write path offset data p = disk p := by
  unfold write
  split
  · rfl
  · exact disk.set_ne h _

theorem write_end {disk : Disk} {path file : Bytes} (h : disk path = some file) (data : Bytes) :
    disk.write path file.length data path = some (file ++ data) := by
  unfold write
  split
  · rename_i hdata
    rw [h, hdata, List.append_nil]
  · simp [h, patch]

end Disk

def FileAccess.flush (acces : FileAccess) (w : Write UInt8) (heap : Heap) (disk : Disk) : Disk :=
  match acces.getFileStream heap with
  | some strm =>
    if strm.isOpen then disk.write strm.path strm.stream.file.length (strm.stream.passes w)
    else disk
  | none => disk

/-- The objects made so far, without the ones that are gone, the streams made with `new`, and
the disk. -/
structure Process where
  objects : List (Option FileAccess)
  heap : Heap
  disk : Disk

inductive FileOp where
  | construct (filePath : Bytes) (opens : Bool)
  | copy (i : Nat)
  | assign (i j : Nat)
  | call (i : Nat) (c : FileCall)
  | destroy (i : Nat)
  deriving DecidableEq, Repr

namespace Process

def object? (p : Process) (i : Nat) : Option FileAccess := (p.objects[i]?).join

/-- One operation; `none` if it names an object that is not there. -/
def step (p : Process) : FileOp → Option Process
  | .construct filePath opens =>
    let (acces, heap) := FileAccess.new filePath opens p.heap
    let disk := if opens then p.disk.truncate filePath else p.disk
    some ⟨p.objects ++ [some acces], heap, disk⟩
  | .copy i => do
    let acces ← p.object? i
    pure { p with objects := p.objects ++ [some acces] }
  | .assign i j => do
    let _ ← p.object? i
    let acces ← p.object? j
    pure { p with objects := p.objects.set i (some acces) }
  | .call i c => do
    let acces ← p.object? i
    pure { p with heap := c.exec acces p.heap, disk := acces.flush c.write p.heap p.disk }
  | .destroy i => do
    let acces ← p.object? i
    pure { p with objects := p.objects.set i none, heap := acces.destroy p.heap }

def run (disk : Disk) : List FileOp → Option Process := List.foldlM step ⟨[], [], disk⟩

end Process

/-- What is written between the constructor and the end of the program, through any object. -/
structure FileSession where
  path : Bytes
  opens : Bool
  writes : List (Write UInt8)

namespace FileSession

def write (s : FileSession) (w : Write UInt8) : FileSession :=
  if s.opens then { s with writes := s.writes ++ [w] } else s

def contents (s : FileSession) : Bytes := s.writes.flatMap Write.data

def fstream (s : FileSession) : Fstream := ⟨s.path, s.opens, Stream.empty.writeAll s.writes⟩

@[simp] theorem path_write (s : FileSession) (w : Write UInt8) : (s.write w).path = s.path := by
  unfold write
  split <;> rfl

@[simp] theorem opens_write (s : FileSession) (w : Write UInt8) : (s.write w).opens = s.opens := by
  unfold write
  split <;> rfl

theorem fstream_write (s : FileSession) (w : Write UInt8) :
    (s.write w).fstream =
      if s.opens then ⟨s.path, s.opens, s.fstream.stream.write w⟩ else s.fstream := by
  unfold write
  split
  · simp [fstream, Stream.writeAll, *]
  · rfl

theorem contents_fstream (s : FileSession) : s.fstream.stream.contents = s.contents :=
  Stream.contents_writeAll .empty s.writes

end FileSession

structure Sessions where
  objects : List (Option Nat)
  sessions : List FileSession

namespace Sessions

def object? (a : Sessions) (i : Nat) : Option Nat := (a.objects[i]?).join

def step (a : Sessions) : FileOp → Option Sessions
  | .construct filePath opens =>
    some ⟨a.objects ++ [some a.sessions.length], a.sessions ++ [⟨filePath, opens, []⟩]⟩
  | .copy i => do
    let s ← a.object? i
    pure { a with objects := a.objects ++ [some s] }
  | .assign i j => do
    let _ ← a.object? i
    let s ← a.object? j
    pure { a with objects := a.objects.set i (some s) }
  | .call i c => do
    let s ← a.object? i
    pure { a with sessions := a.sessions.modify s fun session => session.write c.write }
  | .destroy i => do
    let _ ← a.object? i
    pure { a with objects := a.objects.set i none }

def run : List FileOp → Option Sessions := List.foldlM step ⟨[], []⟩

end Sessions

/-- Session `i` has its path open, and no other session has it. -/
structure OnlyOpener (sessions : List FileSession) (i : Nat) (s : FileSession) : Prop where
  stored : sessions[i]? = some s
  opens : s.opens = true
  only : ∀ j t, sessions[j]? = some t → t.opens = true → t.path = s.path → j = i

/-- A file that one session has to itself holds what its stream has passed on. -/
def Keyed (disk : Disk) (sessions : List FileSession) : Prop :=
  ∀ i s, OnlyOpener sessions i s → disk s.path = some s.fstream.stream.file

theorem Keyed.construct {disk : Disk} {sessions : List FileSession} (hk : Keyed disk sessions)
    (path : Bytes) (opens : Bool) :
    Keyed (if opens then disk.truncate path else disk) (sessions ++ [⟨path, opens, []⟩]) := by
  intro i s ho
  have hold : ∀ {j : Nat} {t : FileSession}, sessions[j]? = some t →
      (sessions ++ [⟨path, opens, []⟩])[j]? = some t := fun hj =>
    (List.getElem?_append_left (List.getElem?_eq_some_iff.1 hj).1).trans hj
  have hlast : (sessions ++ [(⟨path, opens, []⟩ : FileSession)])[sessions.length]? =
      some ⟨path, opens, []⟩ := by simp
  have hstored := ho.stored
  by_cases hlt : i < sessions.length
  · have hi : sessions[i]? = some s := (List.getElem?_append_left hlt).symm.trans hstored
    have hbefore := hk i s ⟨hi, ho.opens, fun j t hj => ho.only j t (hold hj)⟩
    cases opens with
    | false => exact hbefore
    | true =>
      -- the new session opens its path, so it is not one that another has to itself
      have hne : s.path ≠ path := by
        intro heq
        have hsame := ho.only _ _ hlast rfl heq.symm
        omega
      exact (disk.set_ne hne _).trans hbefore
  · have hlen := (List.getElem?_eq_some_iff.1 hstored).1
    rw [List.length_append, List.length_singleton] at hlen
    obtain rfl : i = sessions.length := by omega
    obtain rfl : ⟨path, opens, []⟩ = s := Option.some.inj (hlast.symm.trans hstored)
    have hopens : opens = true := ho.opens
    subst hopens
    exact disk.set_self path []

theorem OnlyOpener.of_modify {sessions : List FileSession} {k i : Nat} {w : Write UInt8}
    {s : FileSession} (ho : OnlyOpener (sessions.modify k fun t => t.write w) i s) :
    ∃ t, OnlyOpener sessions i t ∧ s = if k = i then t.write w else t := by
  have hstored := ho.stored
  rw [List.getElem?_modify] at hstored
  obtain ⟨t, ht, hs⟩ := Option.map_eq_some_iff.1 hstored
  have hpath : s.path = t.path := by
    rw [← hs]
    split <;> simp
  have hopens : s.opens = t.opens := by
    rw [← hs]
    split <;> simp
  refine ⟨t, ⟨ht, hopens ▸ ho.opens, fun j u hj huopens hupath => ?_⟩, ?_⟩
  · refine ho.only j (if k = j then u.write w else u) ?_ ?_ ?_
    · rw [List.getElem?_modify, hj]
      split <;> rfl
    · split <;> simpa using huopens
    · rw [hpath]
      split <;> simpa using hupath
  · rw [← hs]

theorem Keyed.write {disk : Disk} {sessions : List FileSession} (hk : Keyed disk sessions)
    {k : Nat} {t : FileSession} (hstored : sessions[k]? = some t) (w : Write UInt8) :
    Keyed (if t.opens then disk.write t.path t.fstream.stream.file.length
        (t.fstream.stream.passes w) else disk)
      (sessions.modify k fun session => session.write w) := by
  intro i s ho
  obtain ⟨u, hu, hs⟩ := ho.of_modify
  have hbefore := hk i u hu
  by_cases hki : k = i
  · subst hki
    obtain rfl : t = u := Option.some.inj (hstored.symm.trans hu.stored)
    have hfile : s.fstream.stream.file = t.fstream.stream.file ++ t.fstream.stream.passes w := by
      rw [hs, if_pos rfl, t.fstream_write, if_pos hu.opens, Stream.file_write]
    have hpath : s.path = t.path := by rw [hs, if_pos rfl, t.path_write]
    rw [if_pos hu.opens, hpath, hfile]
    exact Disk.write_end hbefore _
  · obtain rfl : s = u := by rw [hs, if_neg hki]
    split
    · rename_i hopens
      have hne : s.path ≠ t.path := fun heq => hki (hu.only k t hstored hopens heq.symm)
      exact (disk.write_ne hne _ _).trans hbefore
    · exact hbefore

structure Represents (p : Process) (a : Sessions) : Prop where
  objects : p.objects.map (Option.map FileAccess.mFileStream) = a.objects.map (Option.map some)
  heap : p.heap = a.sessions.map FileSession.fstream
  bound : ∀ s, some s ∈ a.objects → s < a.sessions.length
  disk : Keyed p.disk a.sessions

theorem Represents.object {p : Process} {a : Sessions} (h : Represents p a) (i : Nat) :
    (p.object? i = none ∧ a.object? i = none) ∨
      ∃ acces s, p.object? i = some acces ∧ a.object? i = some s ∧
        acces.mFileStream = some s ∧ s < a.sessions.length := by
  have hi := congrArg (·[i]?) h.objects
  simp only [List.getElem?_map] at hi
  unfold Process.object? Sessions.object?
  cases hp : p.objects[i]? with
  | none =>
    rw [hp] at hi
    cases ha : a.objects[i]? with
    | none => exact .inl ⟨rfl, rfl⟩
    | some o =>
      rw [ha] at hi
      cases hi
  | some o =>
    rw [hp] at hi
    cases ha : a.objects[i]? with
    | none =>
      rw [ha] at hi
      cases hi
    | some o' =>
      rw [ha] at hi
      cases o with
      | none =>
        cases o' with
        | none => exact .inl ⟨rfl, rfl⟩
        | some s => cases hi
      | some acces =>
        cases o' with
        | none => cases hi
        | some s =>
          have hs : acces.mFileStream = some s := Option.some.inj (Option.some.inj hi)
          exact .inr ⟨acces, s, rfl, rfl, hs, h.bound s (List.mem_of_getElem? ha)⟩

theorem exec_fstream {acces : FileAccess} {s : Nat} {sessions : List FileSession}
    (hs : acces.mFileStream = some s) (hlt : s < sessions.length) (c : FileCall) :
    c.exec acces (sessions.map FileSession.fstream) =
      (sessions.modify s fun session => session.write c.write).map FileSession.fstream := by
  have hget : acces.getFileStream (sessions.map FileSession.fstream) =
      some sessions[s].fstream := by
    simp [FileAccess.getFileStream, hs, hlt]
  have hexec : c.exec acces (sessions.map FileSession.fstream) =
      acces.writeToFile c.write (sessions.map FileSession.fstream) := by
    cases c with
    | bytes toWrite held => rfl
    | string toWrite held => rfl
  rw [hexec]
  unfold FileAccess.writeToFile
  simp only [hs, hget]
  refine List.ext_getElem? fun i => ?_
  rw [List.getElem?_map, List.getElem?_modify]
  by_cases hi : s = i
  · subst hi
    have hwrite := sessions[s].fstream_write c.write
    have hopen : sessions[s].fstream.isOpen = sessions[s].opens := rfl
    cases ho : sessions[s].opens with
    | true =>
      have hpath : sessions[s].fstream.path = sessions[s].path := rfl
      simp [hopen, ho, hlt, hwrite, hpath]
    | false => simp [hopen, ho, hlt, hwrite]
  · cases ho : sessions[s].fstream.isOpen with
    | true => simp [hi]
    | false => simp [hi]

theorem Represents.step {p : Process} {a : Sessions} (h : Represents p a) (op : FileOp) :
    match p.step op, a.step op with
    | some p', some a' => Represents p' a'
    | none, none => True
    | _, _ => False := by
  cases op with
  | construct filePath opens =>
    have hlen : p.heap.length = a.sessions.length := by rw [h.heap, List.length_map]
    refine ⟨?_, ?_, ?_, h.disk.construct filePath opens⟩
    · simp [h.objects, hlen]
    · simp [h.heap, FileSession.fstream, Stream.writeAll]
    · intro s hs
      rw [List.length_append, List.length_singleton]
      rcases List.mem_append.1 hs with hold | hnew
      · exact Nat.lt_succ_of_lt (h.bound s hold)
      · obtain rfl := Option.some.inj (List.mem_singleton.1 hnew)
        exact Nat.lt_succ_self _
  | copy i =>
    unfold Process.step Sessions.step
    rcases h.object i with ⟨hp, ha⟩ | ⟨acces, s, hp, ha, hs, hlt⟩
    · simp [hp, ha]
    · simp only [hp, ha]
      refine ⟨?_, h.heap, ?_, h.disk⟩
      · simp [h.objects, hs]
      · intro t ht
        rcases List.mem_append.1 ht with hold | hnew
        · exact h.bound t hold
        · obtain rfl := Option.some.inj (List.mem_singleton.1 hnew)
          exact hlt
  | assign i j =>
    unfold Process.step Sessions.step
    rcases h.object i with ⟨hp, ha⟩ | ⟨target, t, hp, ha, -, -⟩
    · simp [hp, ha]
    · rcases h.object j with ⟨hp', ha'⟩ | ⟨acces, s, hp', ha', hs, hlt⟩
      · simp [hp, ha, hp', ha']
      · simp only [hp, ha, hp', ha']
        refine ⟨?_, h.heap, ?_, h.disk⟩
        · simp [List.map_set, h.objects, hs]
        · intro u hu
          rcases List.mem_or_eq_of_mem_set hu with hold | hnew
          · exact h.bound u hold
          · obtain rfl := Option.some.inj hnew
            exact hlt
  | call i c =>
    unfold Process.step Sessions.step
    rcases h.object i with ⟨hp, ha⟩ | ⟨acces, s, hp, ha, hs, hlt⟩
    · simp [hp, ha]
    · simp only [hp, ha]
      refine ⟨h.objects, ?_, fun t ht => ?_, ?_⟩
      · show c.exec acces p.heap = _
        rw [h.heap]
        exact exec_fstream hs hlt c
      · rw [List.length_modify]
        exact h.bound t ht
      · have hstored : a.sessions[s]? = some a.sessions[s] := List.getElem?_eq_getElem hlt
        have hcurrent : acces.getFileStream p.heap = some a.sessions[s].fstream := by
          simp [FileAccess.getFileStream, hs, h.heap, hlt]
        show Keyed (acces.flush c.write p.heap p.disk) _
        unfold FileAccess.flush
        rw [hcurrent]
        exact h.disk.write hstored c.write
  | destroy i =>
    unfold Process.step Sessions.step
    rcases h.object i with ⟨hp, ha⟩ | ⟨acces, s, hp, ha, -, -⟩
    · simp [hp, ha]
    · simp only [hp, ha]
      refine ⟨?_, h.heap, fun t ht => ?_, h.disk⟩
      · simp [List.map_set, h.objects]
      · rcases List.mem_or_eq_of_mem_set ht with hold | hnew
        · exact h.bound t hold
        · cases hnew

theorem Represents.run {p : Process} {a : Sessions} (h : Represents p a) (ops : List FileOp) :
    match ops.foldlM Process.step p, ops.foldlM Sessions.step a with
    | some p', some a' => Represents p' a'
    | none, none => True
    | _, _ => False := by
  induction ops generalizing p a with
  | nil => exact h
  | cons op rest ih =>
    have hstep := h.step op
    rw [List.foldlM_cons, List.foldlM_cons]
    cases hp : p.step op with
    | none =>
      rw [hp] at hstep
      cases ha : a.step op with
      | none => trivial
      | some a' =>
        rw [ha] at hstep
        exact hstep.elim
    | some p' =>
      rw [hp] at hstep
      cases ha : a.step op with
      | none =>
        rw [ha] at hstep
        exact hstep.elim
      | some a' =>
        rw [ha] at hstep
        exact ih hstep

theorem Represents.complete_iff {p : Process} {a : Sessions} (h : Represents p a) {i : Nat}
    {s : FileSession} (ho : OnlyOpener a.sessions i s) :
    p.disk s.path = some s.contents ↔ Drained s.writes := by
  rw [h.disk i s ho, Option.some.injEq]
  exact Stream.file_writeAll_iff s.writes

/-- However constructors, copies, assignments, writes and destructors of several objects follow
on each other, every stream holds what the objects of its session wrote, in order, whether they
are still there or not; and the file of a session that has its path to itself is complete exactly
when the session has drained. -/
theorem streams_hold_sessions (disk : Disk) {ops : List FileOp} {p : Process}
    (hrun : Process.run disk ops = some p) :
    ∃ a, Sessions.run ops = some a ∧
      p.heap.map (·.stream.contents) = a.sessions.map FileSession.contents ∧
      ∀ i s, OnlyOpener a.sessions i s →
        (p.disk s.path = some s.contents ↔ Drained s.writes) := by
  have hinit : Represents ⟨[], [], disk⟩ ⟨[], []⟩ :=
    { objects := rfl
      heap := rfl
      bound := fun s hs => by cases hs
      disk := fun i s ho => by cases ho.stored }
  have hboth := hinit.run ops
  unfold Process.run at hrun
  unfold Sessions.run
  rw [hrun] at hboth
  cases ha : ops.foldlM Sessions.step ⟨[], []⟩ with
  | none =>
    rw [ha] at hboth
    exact hboth.elim
  | some a =>
    rw [ha] at hboth
    refine ⟨a, rfl, ?_, fun i s ho => hboth.complete_iff ho⟩
    rw [hboth.heap, List.map_map]
    exact List.map_congr_left fun s _ => s.contents_fstream

/-- A copy goes on writing when its original is gone, between the writes of another object. -/
theorem streams_hold_sessions_copied :
    let ops : List FileOp := [.construct (text "f") true, .call 0 (.bytes (text "a") 1), .copy 0,
      .construct (text "g") true, .destroy 0, .call 2 (.string (text "b") 0),
      .call 1 (.bytes (text "c") 0)]
    ∃ p, Process.run (fun _ => none) ops = some p ∧
      p.heap.map (·.stream.contents) = [text "ac", text "b"] := by
  intro ops
  have hruns : (Process.run (fun _ => none) ops).isSome := by decide +kernel
  obtain ⟨p, hrun⟩ := Option.isSome_iff_exists.1 hruns
  obtain ⟨a, ha, hcontents, -⟩ := streams_hold_sessions (fun _ => none) hrun
  have hsessions : (Sessions.run ops).map (fun a => a.sessions.map FileSession.contents) =
      some [text "ac", text "b"] := by decide +kernel
  rw [ha] at hsessions
  exact ⟨p, hrun, hcontents.trans (Option.some.inj hsessions)⟩

/-- The second constructor empties the file under the first stream, which goes on where it was. -/
example :
    let ops : List FileOp := [.construct (text "f") true, .call 0 (.bytes (text "ab") 0),
      .construct (text "f") true, .call 1 (.bytes (text "x") 0), .call 0 (.bytes (text "c") 0)]
    (Process.run (fun _ => none) ops).map (fun p => p.disk (text "f")) =
      some (some (text "x" ++ [0] ++ text "c")) := by
  decide +kernel

end AsioClient
