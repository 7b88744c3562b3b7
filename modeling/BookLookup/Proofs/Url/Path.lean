import BookLookup.Url.Reader
import BookLookup.Proofs.Elementwise
import BookLookup.Proofs.PercentEncoding

/-!
# Paths of URLs with a host

The path of a URL with a host is made of encoded segments, so that no question
mark stands in it and the query begins at the first one.
-/

namespace BookLookup
namespace Url

/-- No question mark stands in an encoded segment. -/
theorem question_not_mem_encodeWhere (text : List Char) :
    '?' ∉ PercentEncoding.encodeWhere keptInPath text := by
  intro member
  have digits : ∀ value < 16, Hex.upperDigit value ≠ '?' := by decide
  rcases PercentEncoding.mem_encodeWhere member with
    isPercent | ⟨value, below, isDigit⟩ | ⟨octet, kept, isOctet⟩
  · cases isPercent
  · exact digits value below isDigit.symm
  · simp [keptInPath, keepsExcept, ← isOctet] at kept

/-- No question mark stands in a path of segments. -/
theorem question_not_mem_segmentedPath
    (kind : SchemeKind)
    (text : List Char) :
    '?' ∉ segmentedPath kind text := by
  intro member
  obtain ⟨segment, isSegment, inSegment⟩ := List.mem_flatten.mp member
  obtain ⟨plain, -, rfl⟩ := List.mem_map.mp isSegment
  rcases List.mem_cons.mp inSegment with isSlash | inPlain
  · cases isSlash
  · exact question_not_mem_encodeWhere plain inPlain

/-- No question mark stands in a path behind a host. -/
theorem question_not_mem_hostedPath
    (kind : SchemeKind)
    (text : List Char) :
    '?' ∉ hostedPath kind text := by
  unfold hostedPath
  split
  · exact List.not_mem_nil
  · exact question_not_mem_segmentedPath _ _

/-- The path of a URL whose host comes after slashes. -/
theorem question_not_mem_path_of_readAuthority
    {scheme : String}
    {text : List Char}
    {url : Url}
    (read : readAuthority scheme text = .ok url) :
    '?' ∉ url.path.toList := by
  unfold readAuthority at read
  simp only [] at read
  split at read
  · cases read
  · obtain ⟨host, -, afterHost⟩ := exists_of_bind_eq_ok read
    obtain ⟨port, -, afterPort⟩ := exists_of_bind_eq_ok afterHost
    split at afterPort
    · cases afterPort
    · rw [← Except.ok.inj afterPort, assemble, String.toList_ofList]
      exact question_not_mem_hostedPath _ _

/-- The path of a URL of a file. -/
theorem question_not_mem_path_of_readFile
    {text : List Char}
    {url : Url}
    (read : readFile text = .ok url) :
    '?' ∉ url.path.toList := by
  have assembled
      {hosted : Except UrlFault (Option Host × List Char)}
      {kept : Option Host × List Char -> Option Host}
      (ends : (hosted >>= fun found =>
        pure (assemble "file" ("", "") (kept found) none
          (segmentedPath .file (dropDivider .file (Tail.ofText found.2).path))
          (Tail.ofText found.2))) = .ok url) :
      '?' ∉ url.path.toList := by
    obtain ⟨found, -, afterFound⟩ := exists_of_bind_eq_ok ends
    rw [← Except.ok.inj afterFound, assemble, String.toList_ofList]
    exact question_not_mem_segmentedPath _ _
  unfold readFile at read
  simp only [] at read
  split at read
  · split at read
    · exact assembled read
    · exact assembled read
  · exact assembled read

/-- No question mark stands in the path of a URL with a host. -/
theorem question_not_mem_path
    {text : String}
    {url : Url}
    (read : Url.read text = .ok url)
    (hosted : url.host.isSome) :
    '?' ∉ url.path.toList := by
  unfold Url.read at read
  split at read
  · cases read
  · split at read
    · exact question_not_mem_path_of_readFile read
    · exact question_not_mem_path_of_readAuthority read
    · unfold readOther at read
      split at read
      · exact question_not_mem_path_of_readAuthority read
      · -- Without slashes there is no host.
        rw [← Except.ok.inj read] at hosted
        cases hosted

end Url
end BookLookup
