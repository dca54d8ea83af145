import Mathlib.Data.List.Induction
import Routing.Path
import Routing.Proofs.Lists

namespace Routing.Path

/-! # Segments of written paths

What `segments` finds in a path that was put together from pieces, and what is left of a path
without its lead. Main statements: `segments_written`, pieces that are written each after a slash
are found again, and `intercalate_segments_eq_iff`, which texts are the join of their own segments.
-/

/-- A text that a path can hold as one segment: not empty, and free of slashes. -/
def IsSegment (text : String) : Prop := text ≠ "" ∧ '/' ∉ text.toList

instance (text : String) : Decidable (IsSegment text) :=
  inferInstanceAs (Decidable (_ ∧ _))

/-- The texts of a list, each after a slash. -/
def written (pieces : List String) : String := String.join (pieces.map ("/" ++ ·))

@[simp]
theorem written_nil : written [] = "" := rfl

@[simp]
theorem written_cons (piece : String) (pieces : List String) :
    written (piece :: pieces) = "/" ++ piece ++ written pieces := by
  simp [written]

@[simp]
theorem written_append (pieces more : List String) :
    written (pieces ++ more) = written pieces ++ written more := by
  simp [written]

theorem written_eq_empty_iff {pieces : List String} : written pieces = "" ↔ pieces = [] := by
  cases pieces with
  | nil => simp
  | cons piece pieces => simp [← String.toList_inj]

/-- Pieces after a slash each are the join of the pieces after one slash. -/
theorem written_eq_slash_intercalate {pieces : List String} (hne : pieces ≠ []) :
    written pieces = "/" ++ "/".intercalate pieces := by
  induction pieces with
  | nil => exact absurd rfl hne
  | cons piece rest ih =>
    cases rest with
    | nil => simp
    | cons next rest =>
      rw [written_cons, ih (by simp), String.intercalate_cons_cons]
      simp [String.append_assoc]

/-! ## Splitting at slashes -/

theorem isSegment_of_mem_segments {path piece : String} (hpiece : piece ∈ segments path) :
    IsSegment piece := by
  simp only [segments, List.mem_map, List.mem_filter] at hpiece
  rcases hpiece with ⟨cs, ⟨hcs, hne⟩, rfl⟩
  constructor
  · intro h
    have hnil : cs = [] := by simpa using congrArg String.toList h
    simp [hnil] at hne
  · simpa using not_mem_of_mem_splitOn hcs

/-- A slash cuts a path in two, and the segments are those of both parts. -/
theorem segments_append_slash (before after : String) :
    segments (before ++ "/" ++ after) = segments before ++ segments after := by
  have htext : (before ++ "/" ++ after).toList = before.toList ++ '/' :: after.toList := by simp
  rw [segments, htext, List.splitOn_append_cons_self]
  simp [segments]

@[simp]
theorem segments_empty : segments "" = [] := by decide

theorem segments_of_isSegment {piece : String} (hpiece : IsSegment piece) :
    segments piece = [piece] := by
  have hne : piece.toList ≠ [] := by simpa using hpiece.1
  rw [segments, List.splitOn_eq_singleton hpiece.2]
  simp [hne]

/-- A slash at the end adds no segment. -/
theorem segments_concat_slash (path : String) : segments (path ++ "/") = segments path := by
  simpa using segments_append_slash path ""

/-- Pieces that are written each after a slash are found again. -/
theorem segments_written {pieces : List String} (hpieces : ∀ piece ∈ pieces, IsSegment piece) :
    segments (written pieces) = pieces := by
  induction pieces using List.reverseRecOn with
  | nil => simp
  | append_singleton rest piece ih =>
    have hrest := ih fun other hother => hpieces other (List.mem_append_left _ hother)
    -- The last piece is cut off at its slash.
    have hpath : written (rest ++ [piece]) = written rest ++ "/" ++ piece := by
      simp [String.append_assoc]
    rw [hpath, segments_append_slash, hrest, segments_of_isSegment (hpieces piece (by simp))]

/-- The join of pieces holds the same segments as the pieces after a slash each. -/
theorem segments_intercalate {pieces : List String} (hpieces : ∀ piece ∈ pieces, IsSegment piece) :
    segments ("/".intercalate pieces) = pieces := by
  by_cases hne : pieces = []
  · simp [hne]
  · have hcut := segments_append_slash "" ("/".intercalate pieces)
    rw [String.empty_append, ← written_eq_slash_intercalate hne, segments_written hpieces] at hcut
    simpa using hcut.symm

/-- So does the join after a slash. -/
theorem segments_slash_intercalate {pieces : List String}
    (hpieces : ∀ piece ∈ pieces, IsSegment piece) :
    segments ("/" ++ "/".intercalate pieces) = pieces := by
  have hcut := segments_append_slash "" ("/".intercalate pieces)
  rw [String.empty_append, segments_empty, List.nil_append] at hcut
  rw [hcut, segments_intercalate hpieces]

/-- The texts that are the join of their own segments: the empty text, and those without an empty
piece between slashes. -/
theorem intercalate_segments_eq_iff {text : String} :
    "/".intercalate (segments text) = text ↔ text = "" ∨ [] ∉ text.toList.splitOn '/' := by
  constructor
  · intro hjoin
    by_cases hnone : segments text = []
    · left
      rw [← hjoin, hnone, String.intercalate_nil]
    · right
      intro hempty
      -- The segments are all the pieces between slashes, and no segment is empty.
      have hsplit : text.toList.splitOn '/' = (segments text).map String.toList := by
        have hfree : ∀ cs ∈ (segments text).map String.toList, '/' ∉ cs := by
          rintro cs hcs
          rcases List.mem_map.1 hcs with ⟨piece, hpiece, rfl⟩
          exact (isSegment_of_mem_segments hpiece).2
        have hback := List.splitOn_intercalate '/' hfree (by simpa using hnone)
        rwa [← String.toList_ofList (l := ['/']), ← String.toList_intercalate, hjoin] at hback
      rw [hsplit, List.mem_map] at hempty
      rcases hempty with ⟨piece, hpiece, hnil⟩
      exact (isSegment_of_mem_segments hpiece).1 (by simpa using hnil)
  · intro hcase
    rcases hcase with rfl | hfull
    · simp
    · have hall : (text.toList.splitOn '/').filter (!·.isEmpty) = text.toList.splitOn '/' := by
        apply List.filter_eq_self.2
        intro piece hpiece
        have hne : piece ≠ [] := fun h => hfull (h ▸ hpiece)
        simpa using hne
      rw [← String.toList_inj, segments, hall, String.toList_intercalate, List.map_map]
      simp [Function.comp_def]

/-! ## Doubled slashes -/

/-- A slash stands right after another one. -/
def HasDoubledSlash (text : List Char) : Prop := ['/', '/'] <:+: text

theorem not_hasDoubledSlash_append {text rest : List Char} (hfree : '/' ∉ text)
    (hrest : ¬ HasDoubledSlash rest) : ¬ HasDoubledSlash (text ++ rest) := by
  induction text with
  | nil => exact hrest
  | cons c text ih =>
    rw [List.mem_cons, not_or] at hfree
    intro hdoubled
    rcases List.infix_cons_iff.1 hdoubled with hfirst | hlater
    · -- The pair would begin with the first character, which is no slash.
      exact hfree.1 (List.cons_prefix_cons.1 hfirst).1
    · exact ih hfree.2 hlater

/-- Segments bound every slash on its right. -/
theorem not_hasDoubledSlash_written {pieces : List String}
    (hpieces : ∀ piece ∈ pieces, IsSegment piece) :
    ¬ HasDoubledSlash (written pieces ++ "/").toList := by
  induction pieces with
  | nil =>
    unfold HasDoubledSlash
    decide
  | cons piece pieces ih =>
    have hhead := hpieces piece List.mem_cons_self
    have hrest := not_hasDoubledSlash_append hhead.2
      (ih fun other hother => hpieces other (List.mem_cons_of_mem _ hother))
    have htext : (written (piece :: pieces) ++ "/").toList =
        '/' :: (piece.toList ++ (written pieces ++ "/").toList) := by
      simp [String.append_assoc]
    rw [htext]
    intro hdoubled
    rcases List.infix_cons_iff.1 hdoubled with hfirst | hlater
    · -- After its slash comes the first character of a segment.
      have hne : piece.toList ≠ [] := by simpa using hhead.1
      obtain ⟨c, cs, hchars⟩ := List.exists_cons_of_ne_nil hne
      rw [hchars] at hfirst
      have hslash := (List.cons_prefix_cons.1 (List.cons_prefix_cons.1 hfirst).2).1
      exact hhead.2 (by simp [hchars, ← hslash])
    · exact hrest hlater

/-! ## Leads -/

theorem dropLead_append (lead path : String) : dropLead lead (lead ++ path) = path := by
  rw [dropLead, List.isPrefixOf?_eq_some_iff_append_eq.2 String.toList_append.symm]
  exact String.ofList_toList

end Routing.Path
