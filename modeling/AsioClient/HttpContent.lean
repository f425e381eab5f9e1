import AsioClient.CppRuntime

/-!
The functions of `HttpClient` that only compute on bytes: the scheme test of a URL, the split
of a response at the end of its header, and the printable text of a body.
-/

set_option autoImplicit false

namespace AsioClient
open FirstOccurrence

def httpScheme : Bytes := text "http://"
def httpsScheme : Bytes := text "https://"

/-- Both branches cut at the front, wherever the scheme was found. -/
def checkURL (url : Bytes) : Except Exn Bytes :=
  if find url httpsScheme ≠ npos then
    substrCount url httpsScheme.length (url.length - httpsScheme.length)
  else if find url httpScheme ≠ npos then
    substrCount url httpScheme.length (url.length - httpScheme.length)
  else .ok []

structure HttpContentData where
  Header : Bytes
  Body : Bytes
  deriving DecidableEq, Repr

def headerEnd : Bytes := crlf ++ crlf

def extractData (load : Bytes) : HttpContentData :=
  let it := search load headerEnd
  if it ≠ load.length then
    { Header := load.take it, Body := load.drop (it + headerEnd.length) }
  else
    { Header := [], Body := load }

/-- `std::isprint` in the "C" locale. -/
def isPrint (c : UInt8) : Bool := 0x20 ≤ c && c ≤ 0x7e

def isNewline (c : UInt8) : Bool := c == lf || c == cr

structure FilterState where
  result : Bytes
  lastCharWasNewline : Bool

def FilterState.step (st : FilterState) (c : UInt8) : FilterState :=
  if isPrint c || c == lf || c == cr || c == '\t'.toUInt8 then
    if isNewline c && st.lastCharWasNewline then st
    else ⟨st.result ++ [c], isNewline c⟩
  else st

def getStringResult (resultBuffer : Bytes) : Bytes :=
  if resultBuffer.isEmpty then []
  else (resultBuffer.foldl FilterState.step ⟨[], false⟩).result

theorem substrCount_drop {s : Bytes} {n : Nat} (h : n ≤ s.length) :
    substrCount s n (s.length - n) = .ok (s.drop n) := by
  rw [substrCount, if_pos h, List.take_of_length_le (by rw [List.length_drop])]

theorem checkURL_eq {url : Bytes} (hlen : url.length ≤ maxSize) :
    checkURL url = .ok (if httpsScheme <:+: url then url.drop httpsScheme.length
      else if httpScheme <:+: url then url.drop httpScheme.length else []) := by
  simp only [checkURL, find_ne_npos_iff hlen]
  split
  · rename_i h
    exact substrCount_drop h.length_le
  · split
    · rename_i h
      exact substrCount_drop h.length_le
    · rfl

theorem infix_of_find_ne_npos {s pat : Bytes} (h : find s pat ≠ npos) : pat <:+: s := by
  by_contra hno
  exact h (find_of_absent hno)

theorem checkURL_suffix (url : Bytes) :
    ∃ address, checkURL url = .ok address ∧ address <:+ url := by
  unfold checkURL
  split
  · rename_i h
    exact ⟨_, substrCount_drop (infix_of_find_ne_npos h).length_le, List.drop_suffix _ _⟩
  · split
    · rename_i h
      exact ⟨_, substrCount_drop (infix_of_find_ne_npos h).length_le, List.drop_suffix _ _⟩
    · exact ⟨[], rfl, List.nil_suffix⟩

theorem checkURL_of_absent {url : Bytes} (hs : ¬ httpsScheme <:+: url)
    (h : ¬ httpScheme <:+: url) : checkURL url = .ok [] := by
  simp [checkURL, find_of_absent hs, find_of_absent h]

theorem https_infix_http_append (s : Bytes) :
    httpsScheme <:+: httpScheme ++ s ↔ httpsScheme <:+: s := by
  have hhttps : httpsScheme = [104, 116, 116, 112, 115, 58, 47, 47] := rfl
  have hhttp : httpScheme ++ s = 104 :: 116 :: 116 :: 112 :: 58 :: 47 :: 47 :: s := rfl
  rw [hhttps, hhttp]
  simp [List.infix_cons_iff]

theorem extractData_of_cut {load header body : Bytes}
    (h : cut headerEnd load = some (header, body)) : extractData load = ⟨header, body⟩ := by
  have hs := (cut_eq_some_iff.1 h).1
  have hsearch : search load headerEnd = header.length := by simp [search, h]
  have hne : header.length ≠ load.length := by
    have := congrArg List.length hs
    simp only [List.length_append, show headerEnd.length = 4 from rfl] at this
    omega
  have hbody : load.drop (header.length + headerEnd.length) = body := by
    rw [hs, ← List.length_append, List.drop_left]
  have hheader : load.take header.length = header := by
    rw [hs, List.append_assoc, List.take_left]
  simp only [extractData, hsearch, ne_eq, hne, not_false_eq_true, if_true, hheader, hbody]

/-- The blank line overlaps itself by `crlf`: only a header that ends in one moves the split. -/
theorem headerEnd_infix_iff {header : Bytes} :
    headerEnd <:+: header ++ headerEnd.dropLast ↔ headerEnd <:+: header ∨ crlf <:+ header := by
  have hlf : lf ∉ [cr] := by decide
  have hshape : headerEnd = [cr, lf, cr] ++ [lf] := rfl
  have htail : header ++ headerEnd.dropLast = header ++ [cr] ++ [lf] ++ [cr] := by
    simp [show headerEnd.dropLast = [cr, lf, cr] from rfl]
  constructor
  · intro hin
    rw [htail, hshape, concat_infix_append_iff hlf, ← hshape] at hin
    rcases List.infix_concat_iff.1 hin with hsuf | hin
    · have hcrlf : crlf ++ crlf <:+ header ++ crlf := by
        simpa [headerEnd, crlf] using hsuf
      exact .inr ((List.suffix_append_inj_of_length_eq rfl).1 hcrlf).1
    · rw [hshape, concat_infix_append_iff hlf, ← hshape] at hin
      exact .inl hin
  · intro hin
    rcases hin with hin | ⟨before, rfl⟩
    · exact List.infix_append_of_infix_left hin
    · exact ⟨before, [cr], by simp [headerEnd, crlf]⟩

theorem extractData_of_absent {load : Bytes} (h : ¬ headerEnd <:+: load) :
    extractData load = ⟨[], load⟩ := by
  have hsearch : search load headerEnd = load.length := by simp [search, cut_eq_none_iff.2 h]
  simp [extractData, hsearch]

theorem extractData_joined_iff {header body : Bytes} :
    extractData (header ++ headerEnd ++ body) = ⟨header, body⟩ ↔
      ¬ headerEnd <:+: header ∧ ¬ crlf <:+ header := by
  have hne : headerEnd ≠ [] := by decide
  have hin : headerEnd <:+: header ++ headerEnd ++ body := ⟨header, body, rfl⟩
  rw [← not_or, ← headerEnd_infix_iff, ← cut_append_iff (t := body) hne]
  obtain ⟨h', b', hcut⟩ := exists_cut_of_infix hin
  rw [extractData_of_cut hcut, hcut]
  simp

theorem extractData_response {header body : Bytes} (hno : ¬ headerEnd <:+: header)
    (hend : ¬ crlf <:+ header) :
    extractData (header ++ headerEnd ++ body) = ⟨header, body⟩ :=
  extractData_joined_iff.2 ⟨hno, hend⟩

theorem extractData_inverts_join :
    (∀ load, headerEnd <:+: load →
      (extractData load).Header ++ headerEnd ++ (extractData load).Body = load ∧
      ∀ before after, (extractData load).Header ++ headerEnd = before ++ headerEnd ++ after →
        before.length = (extractData load).Header.length) ∧
    (∀ load, ¬ headerEnd <:+: load →
      (extractData load).Header = [] ∧ (extractData load).Body = load) ∧
    ∀ header body, extractData (header ++ headerEnd ++ body) = ⟨header, body⟩ ↔
      ¬ headerEnd <:+: header ∧ ¬ crlf <:+ header := by
  refine ⟨?_, ?_, fun header body => extractData_joined_iff⟩
  · intro load hin
    obtain ⟨header, body, hcut⟩ := exists_cut_of_infix hin
    obtain ⟨hsplit, hfirst⟩ := cut_eq_some_iff.1 hcut
    rw [extractData_of_cut hcut]
    refine ⟨hsplit.symm, ?_⟩
    intro before after hocc
    have hle : header.length ≤ before.length := by
      refine hfirst before (after ++ body) ?_
      rw [hsplit, show header ++ headerEnd = before ++ headerEnd ++ after from hocc]
      simp
    have hlen := congrArg List.length hocc
    simp only [List.length_append] at hlen
    show before.length = header.length
    omega
  · intro load hno
    rw [extractData_of_absent hno]
    exact ⟨rfl, rfl⟩

theorem extractData_inverts_join_overlap :
    (extractData (text "H\r\n\r\n\r\nb")).Header ++ headerEnd ++
        (extractData (text "H\r\n\r\n\r\nb")).Body = text "H\r\n\r\n\r\nb" ∧
      (extractData (text "b")).Header = [] ∧
      extractData (text "H\r\n" ++ headerEnd ++ text "b") ≠ ⟨text "H\r\n", text "b"⟩ := by
  have hin : headerEnd <:+: text "H\r\n\r\n\r\nb" := ⟨text "H", text "\r\nb", rfl⟩
  refine ⟨(extractData_inverts_join.1 _ hin).1,
    (extractData_inverts_join.2.1 (text "b") (by decide)).1, ?_⟩
  intro hsame
  exact ((extractData_inverts_join.2.2 _ _).1 hsame).2 (by decide)

/-- As long as the blank line is not complete, all of it counts as body. -/
theorem extractData_take_lt {header body : Bytes} (hno : ¬ headerEnd <:+: header)
    (hend : ¬ crlf <:+ header) {n : Nat} (hn : n < header.length + headerEnd.length) :
    extractData ((header ++ headerEnd ++ body).take n) =
      ⟨[], (header ++ headerEnd).take n⟩ := by
  have hle : n ≤ (header ++ headerEnd).length := by
    rw [List.length_append]
    omega
  have hshort : (header ++ headerEnd).take n <+: header ++ headerEnd.dropLast := by
    rw [← List.dropLast_append_of_ne_nil (by decide), List.dropLast_eq_take, List.length_append]
    exact List.take_prefix_take_left (by omega)
  have habsent : ¬ headerEnd <:+: (header ++ headerEnd).take n := by
    intro hin
    rcases headerEnd_infix_iff.1 (hin.trans hshort.isInfix) with hin | hsuf
    · exact hno hin
    · exact hend hsuf
  rw [List.take_append_of_le_length hle]
  exact extractData_of_absent habsent

theorem extractData_take_ge {header body : Bytes} (hno : ¬ headerEnd <:+: header)
    (hend : ¬ crlf <:+ header) (n : Nat) :
    extractData ((header ++ headerEnd ++ body).take (header.length + headerEnd.length + n)) =
      ⟨header, body.take n⟩ := by
  have hfront : (header ++ headerEnd ++ body).take (header.length + headerEnd.length + n) =
      header ++ headerEnd ++ body.take n := by
    rw [← List.length_append, List.take_length_add_append]
  rw [hfront]
  exact extractData_response hno hend

end AsioClient
