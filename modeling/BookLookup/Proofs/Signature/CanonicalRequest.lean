import BookLookup.Proofs.Text.Split
import BookLookup.Proofs.TextMap
import BookLookup.Signature.CanonicalRequest
import Mathlib.Data.List.DropRight

/-!
# What the text of a canonical request tells

White space around the values of headers makes no difference to the text of a
canonical request. Its query does: requests that differ in nothing else have
one text only if they have one query.
-/

namespace BookLookup

/-! ## Trimming twice -/

/-- A text that has been trimmed at its end does not begin with white space if
it did not before. -/
theorem dropWhile_isBlank_trimEnd
    {text : List Char}
    (begun : text.dropWhile isBlank = text) :
    (trimEnd text).dropWhile isBlank = trimEnd text := by
  obtain ⟨rest, whole⟩ := List.rdropWhile_prefix isBlank text
  change trimEnd text ++ rest = text at whole
  cases kept : trimEnd text with
  | nil => rfl
  | cons first others =>
      rw [kept, List.cons_append] at whole
      rw [← whole, List.dropWhile_cons] at begun
      rw [List.dropWhile_cons]
      split at begun
      · rename_i blank
        have shorter := List.length_dropWhile_le isBlank (others ++ rest)
        rw [begun, List.length_cons] at shorter
        omega
      · rename_i notBlank
        exact if_neg notBlank

@[simp] theorem trimmed_trimmed (text : String) :
    trimmed (trimmed text) = trimmed text := by
  have begun : (trim text.toList).dropWhile isBlank = trim text.toList :=
    dropWhile_isBlank_trimEnd (List.dropWhile_idempotent isBlank _)
  have ended : trimEnd (trim text.toList) = trim text.toList :=
    List.rdropWhile_idempotent isBlank _
  have twice : trim (trim text.toList) = trim text.toList := by
    rw [trim, begun, ended]
  rw [trimmed, trimmed, String.toList_ofList, twice]

namespace CanonicalRequest

/-! ## Lines and names -/

theorem toList_render (request : CanonicalRequest) :
    request.render.toList =
      Split.join '\n' (request.lines.map String.toList) := by
  rw [render, String.toList_intercalate, Split.join_eq_intercalate]
  rfl

theorem toList_signedHeaders (request : CanonicalRequest) :
    request.signedHeaders.toList =
      Split.join ';' (request.headers.keys.map String.toList) := by
  rw [signedHeaders, String.toList_intercalate, Split.join_eq_intercalate]
  rfl

/-! ## The same text -/

@[simp] theorem headerLine_trimmed (header : String × String) :
    headerLine (header.1, trimmed header.2) = headerLine header := by
  rw [headerLine, headerLine, trimmed_trimmed]

/-- Headers with trimmed values. -/
def trimmedHeaders (headers : TextMap String) : TextMap String :=
  .ofPairs (headers.entries.map fun header => (header.1, trimmed header.2))

theorem entries_trimmedHeaders (headers : TextMap String) :
    (trimmedHeaders headers).entries =
      headers.entries.map fun header => (header.1, trimmed header.2) := by
  apply TextMap.entries_ofPairs
  unfold KeysIncrease
  rw [List.pairwise_map]
  exact headers.increase

/-- A request has the same text when its headers are trimmed. -/
theorem render_trimmedHeaders (request : CanonicalRequest) :
    render { request with headers := trimmedHeaders request.headers } =
      request.render := by
  have sameNames :
      signedHeaders
          { request with headers := trimmedHeaders request.headers } =
        request.signedHeaders := by
    rw [signedHeaders, signedHeaders, TextMap.keys, TextMap.keys,
      entries_trimmedHeaders, List.map_map]
    rfl
  have sameLines : (trimmedHeaders request.headers).entries.map headerLine =
      request.headers.entries.map headerLine := by
    rw [entries_trimmedHeaders, List.map_map]
    apply List.map_congr_left
    intro header _
    exact headerLine_trimmed header
  rw [render, render, lines, lines, sameNames, sameLines]

/-! ## The same query -/

/-- The lines of a request after that of its query. -/
def linesBehindQuery (request : CanonicalRequest) : List String :=
  request.headers.entries.map headerLine ++
    ["", request.signedHeaders, request.payloadHash]

/-- The text of a request around its query. -/
theorem render_eq (request : CanonicalRequest) :
    request.render = request.method ++ "\n" ++ (request.path ++ "\n" ++
      (request.query ++ "\n" ++
        "\n".intercalate request.linesBehindQuery)) := by
  have behind : request.linesBehindQuery ≠ [] := by
    simp [linesBehindQuery]
  have shape : request.lines = request.method :: request.path ::
      request.query :: request.linesBehindQuery := rfl
  rw [render, shape, String.intercalate_cons_cons, String.intercalate_cons_cons,
    String.intercalate_cons_of_ne_nil behind]

/-- Requests that differ at most in their queries have the same text only if
they have the same query. -/
theorem render_query_inj
    (request : CanonicalRequest)
    {query other : String} :
    render { request with query } = render { request with query := other } ↔
      query = other := by
  constructor
  · intro same
    rw [render_eq, render_eq] at same
    have behindMethod := (String.append_right_inj _).mp same
    have behindPath := (String.append_right_inj _).mp behindMethod
    have queryLine := (String.append_left_inj _).mp behindPath
    exact (String.append_left_inj _).mp queryLine
  · rintro rfl
    rfl

end CanonicalRequest
end BookLookup
