import BookLookup.Proofs.Signature.CanonicalRequest
import BookLookup.Proofs.Text.Digits
import BookLookup.Proofs.Text.Utf8
import BookLookup.Signature.Authorization

/-!
# What is signed cannot be read in two ways

The parts of a canonical request stand in lines. If no line end stands within a
part and no colon within the name of a header, then the lines tell the parts,
apart from white space around the values of headers. The text that is signed
ends in the digest of these lines, so that requests with other parts have other
texts to sign unless two sequences of octets with one digest have been found.
-/

namespace BookLookup

/-! ## Octets and their digits -/

theorem Hex.lower_injective : Function.Injective Hex.lower := by
  intro first second same
  have readAlike := congrArg read? same
  rw [read?_lower, read?_lower] at readAlike
  exact Option.some.inj readAlike

/-- Two different sequences of octets with one digest. -/
def Sha256.Collide (first second : List UInt8) : Prop :=
  first ≠ second ∧ Sha256.digest first = Sha256.digest second

namespace CanonicalRequest

/-! ## The parts of a request -/

/-- A request without line ends within its parts and without colons in the names
of its headers. -/
structure IsPlain (request : CanonicalRequest) : Prop where
  /-- The method is one line. -/
  method : '\n' ∉ request.method.toList
  /-- So is the path. -/
  path : '\n' ∉ request.path.toList
  /-- So is the query. -/
  query : '\n' ∉ request.query.toList
  /-- So is the digest of the payload. -/
  payloadHash : '\n' ∉ request.payloadHash.toList
  /-- So is every name of a header. -/
  nameLine : ∀ header ∈ request.headers.entries, '\n' ∉ header.1.toList
  /-- No colon stands in it. -/
  nameColon : ∀ header ∈ request.headers.entries, ':' ∉ header.1.toList
  /-- Every trimmed value of a header is one line. -/
  valueLine : ∀ header ∈ request.headers.entries,
    '\n' ∉ (trimmed header.2).toList

/-- Two requests that differ at most in white space around the values of their
headers. -/
structure SameParts (first second : CanonicalRequest) : Prop where
  /-- They have one method. -/
  method : first.method = second.method
  /-- They have one path. -/
  path : first.path = second.path
  /-- They have one query. -/
  query : first.query = second.query
  /-- Their payloads have one digest. -/
  payloadHash : first.payloadHash = second.payloadHash
  /-- Their headers have the same names. -/
  names : first.headers.keys = second.headers.keys
  /-- Under these they have the same trimmed values. -/
  values : first.headers.entries.map (fun header => trimmed header.2) =
    second.headers.entries.map fun header => trimmed header.2

/-! ## The lines tell the parts -/

/-- The line of a header tells its name and its trimmed value. -/
theorem headerLine_inj
    {first second : String × String}
    (firstColon : ':' ∉ first.1.toList)
    (secondColon : ':' ∉ second.1.toList)
    (same : headerLine first = headerLine second) :
    first.1 = second.1 ∧ trimmed first.2 = trimmed second.2 := by
  have cut (header : String × String) (colon : ':' ∉ header.1.toList) :
      Split.atFirst? ':' (headerLine header).toList =
        some (header.1.toList, (trimmed header.2).toList) := by
    simpa [headerLine] using
      Split.atFirst?_append (trimmed header.2).toList colon
  have cuts := cut first firstColon
  rw [same, cut second secondColon, Option.some.injEq, Prod.mk.injEq] at cuts
  exact ⟨(String.toList_inj.mp cuts.1).symm, (String.toList_inj.mp cuts.2).symm⟩

/-- The lines of headers tell their names and their trimmed values. -/
theorem headerLines_inj
    {first second : List (String × String)}
    (firstColon : ∀ header ∈ first, ':' ∉ header.1.toList)
    (secondColon : ∀ header ∈ second, ':' ∉ header.1.toList)
    (same : first.map headerLine = second.map headerLine) :
    first.map Prod.fst = second.map Prod.fst ∧
      first.map (fun header => trimmed header.2) =
        second.map fun header => trimmed header.2 := by
  induction first generalizing second with
  | nil =>
      rw [List.map_nil, eq_comm, List.map_eq_nil_iff] at same
      rw [same]
      exact ⟨rfl, rfl⟩
  | cons header rest inductionHypothesis =>
      cases second with
      | nil => cases same
      | cons other others =>
          rw [List.map_cons, List.map_cons, List.cons.injEq] at same
          obtain ⟨headerColon, restColon⟩ := List.forall_mem_cons.mp firstColon
          obtain ⟨otherColon, othersColon⟩ := List.forall_mem_cons.mp secondColon
          obtain ⟨name, value⟩ := headerLine_inj headerColon otherColon same.1
          obtain ⟨names, values⟩ :=
            inductionHypothesis restColon othersColon same.2
          simp only [List.map_cons, name, value, names, values, and_self]

/-- No line of a plain request holds a line end. -/
theorem IsPlain.lineEnd_not_mem
    {request : CanonicalRequest}
    (plain : request.IsPlain) :
    ∀ line ∈ request.lines, '\n' ∉ line.toList := by
  have headerPlain : ∀ header ∈ request.headers.entries,
      '\n' ∉ (headerLine header).toList := by
    intro header member
    simp [headerLine, plain.nameLine header member,
      plain.valueLine header member]
  have namesPlain : '\n' ∉ request.signedHeaders.toList := by
    rw [toList_signedHeaders]
    intro member
    rcases Split.mem_join member with isSeparator | ⟨part, isPart, inPart⟩
    · cases isSeparator
    · obtain ⟨name, isName, rfl⟩ := List.mem_map.mp isPart
      obtain ⟨header, isHeader, rfl⟩ := List.mem_map.mp isName
      exact plain.nameLine header isHeader inPart
  intro line member
  simp only [lines, List.mem_append, List.mem_cons, List.mem_map,
    List.not_mem_nil, or_false] at member
  rcases member with
    ((rfl | rfl | rfl) | ⟨header, isHeader, rfl⟩) | rfl | rfl | rfl
  · exact plain.method
  · exact plain.path
  · exact plain.query
  · exact headerPlain header isHeader
  · exact List.not_mem_nil
  · exact namesPlain
  · exact plain.payloadHash

/-- The text of a plain request tells its lines. -/
theorem IsPlain.lines_eq
    {first second : CanonicalRequest}
    (firstPlain : first.IsPlain)
    (secondPlain : second.IsPlain)
    (same : first.render = second.render) :
    first.lines = second.lines := by
  have cut (request : CanonicalRequest) (plain : request.IsPlain) :
      Split.pieces '\n' request.render.toList =
        request.lines.map String.toList := by
    rw [toList_render]
    apply Split.pieces_join (by simp [lines])
    rw [List.forall_mem_map]
    exact plain.lineEnd_not_mem
  have pieces := cut first firstPlain
  rw [same, cut second secondPlain] at pieces
  exact (List.map_injective_iff.mpr (fun _ _ => String.toList_injective)
    pieces).symm

/-- Plain requests with the same lines have the same parts. -/
theorem IsPlain.sameParts_of_lines_eq
    {first second : CanonicalRequest}
    (firstPlain : first.IsPlain)
    (secondPlain : second.IsPlain)
    (same : first.lines = second.lines) :
    SameParts first second := by
  simp only [lines, List.cons_append, List.nil_append, List.cons.injEq] at same
  obtain ⟨method, path, query, behind⟩ := same
  -- Three lines follow those of the headers, so that these are equally many.
  obtain ⟨headers, final⟩ := List.append_inj' behind rfl
  obtain ⟨names, values⟩ :=
    headerLines_inj firstPlain.nameColon secondPlain.nameColon headers
  simp only [List.cons.injEq, and_true, true_and] at final
  exact { method, path, query, payloadHash := final.2, names, values }

/-- Requests with the same parts have the same text. -/
theorem SameParts.render_eq
    {first second : CanonicalRequest}
    (same : SameParts first second) :
    first.render = second.render := by
  have headerLines (request : CanonicalRequest) :
      request.headers.entries.map headerLine =
        List.zipWith (fun name value => name ++ ":" ++ value)
          request.headers.keys
          (request.headers.entries.map fun header => trimmed header.2) := by
    rw [TextMap.keys, List.zipWith_map, List.zipWith_self]
    rfl
  rw [render, render, lines, lines, headerLines, headerLines, signedHeaders,
    signedHeaders, same.method, same.path, same.query, same.payloadHash,
    same.names, same.values]

/-- Plain requests have one text exactly if they have the same parts. -/
theorem IsPlain.render_eq_iff
    {first second : CanonicalRequest}
    (firstPlain : first.IsPlain)
    (secondPlain : second.IsPlain) :
    first.render = second.render ↔ SameParts first second := by
  constructor
  · intro same
    exact firstPlain.sameParts_of_lines_eq secondPlain
      (firstPlain.lines_eq secondPlain same)
  · exact SameParts.render_eq

end CanonicalRequest

namespace Signature

/-! ## The text that is signed -/

theorem toList_stringToSign (scope : Scope) (text : String) :
    (stringToSign scope text).toList =
      (algorithm ++ "\n" ++ scope.timeStamp ++ "\n" ++ scope.credentialScope ++
        "\n").toList ++ Hex.lower (Sha256.digest (Utf8.octets text)) := by
  simp [stringToSign, digest, Hex.text]

/-- Equal texts to sign are those of texts with one digest. -/
theorem digest_eq_of_stringToSign_eq
    {firstScope secondScope : Scope}
    {first second : String}
    (same : stringToSign firstScope first = stringToSign secondScope second) :
    Sha256.digest (Utf8.octets first) = Sha256.digest (Utf8.octets second) := by
  have ends := congrArg String.toList same
  rw [toList_stringToSign, toList_stringToSign] at ends
  have sameLength : (Hex.lower (Sha256.digest (Utf8.octets first))).length =
      (Hex.lower (Sha256.digest (Utf8.octets second))).length := by
    rw [Hex.length_lower, Hex.length_lower, Sha256.length_digest,
      Sha256.length_digest]
  exact Hex.lower_injective (List.append_inj_right' ends sameLength)

/-- The text of a plain request tells its parts, and so does the text that is
signed, in whatever scopes, unless two texts of requests collide. -/
theorem plain_requests_are_told_apart
    {first second : CanonicalRequest}
    (firstPlain : first.IsPlain)
    (secondPlain : second.IsPlain) :
    (first.render = second.render ↔ CanonicalRequest.SameParts first second) ∧
      ∀ firstScope secondScope,
        stringToSign firstScope first.render =
            stringToSign secondScope second.render ->
          CanonicalRequest.SameParts first second ∨
            Sha256.Collide (Utf8.octets first.render)
              (Utf8.octets second.render) := by
  have told := firstPlain.render_eq_iff secondPlain
  refine ⟨told, ?_⟩
  intro firstScope secondScope same
  by_cases sameText : first.render = second.render
  · exact .inl (told.mp sameText)
  · refine .inr ⟨?_, digest_eq_of_stringToSign_eq same⟩
    exact fun sameOctets => sameText (Utf8.octets_injective sameOctets)

/-- Two headers, of which one has a colon in its value and white space around
it. -/
def twoHeaders : TextMap String :=
  .ofPairs [("host", " localhost:9000\t"), ("x-amz-date", "")]

/-- A request with these headers and a query. -/
def requestWithQuery (query : String) : CanonicalRequest :=
  ⟨"GET", "/", query, twoHeaders, unsignedPayload⟩

/-- It is plain if its query is. -/
theorem isPlain_requestWithQuery
    {query : String}
    (plain : '\n' ∉ query.toList) :
    (requestWithQuery query).IsPlain where
  method := (by decide : '\n' ∉ "GET".toList)
  path := (by decide : '\n' ∉ "/".toList)
  query := plain
  payloadHash := (by decide : '\n' ∉ unsignedPayload.toList)
  nameLine :=
    (by decide : ∀ header ∈ twoHeaders.entries, '\n' ∉ header.1.toList)
  nameColon :=
    (by decide : ∀ header ∈ twoHeaders.entries, ':' ∉ header.1.toList)
  valueLine :=
    (by decide : ∀ header ∈ twoHeaders.entries,
      '\n' ∉ (trimmed header.2).toList)

/-- Two such requests with two queries have two texts. -/
theorem requests_with_two_queries_are_told_apart :
    (requestWithQuery "x=1").IsPlain ∧ (requestWithQuery "x=2").IsPlain ∧
      (requestWithQuery "x=1").render ≠ (requestWithQuery "x=2").render := by
  have first : (requestWithQuery "x=1").IsPlain :=
    isPlain_requestWithQuery (by decide)
  have second : (requestWithQuery "x=2").IsPlain :=
    isPlain_requestWithQuery (by decide)
  refine ⟨first, second, ?_⟩
  intro same
  have parts := (plain_requests_are_told_apart first second).1.mp same
  exact absurd parts.query (by decide)

end Signature
end BookLookup
