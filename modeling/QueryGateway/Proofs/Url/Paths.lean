import QueryGateway.Proofs.Text.Escapes
import QueryGateway.Proofs.Text.Splits
import QueryGateway.Url

/-!
# Paths

The segments of a path that is read are escaped and resolved, so that reading their text once
more gives the same segments.
-/

namespace QueryGateway.Url

open Text

variable {kind : Kind}

/-- A segment as a path keeps it: escaped, without slashes, and none of those that stand for a
place in the path. -/
structure IsSegment (kind : Kind) (segment : String) : Prop where
  escaped : Escaped inPath segment.toList
  slash : '/' ∉ segment.toList
  backslash : kind.backslash = true → '\\' ∉ segment.toList
  dot : isDot segment = false
  doubleDot : isDoubleDot segment = false

theorem isSegment_empty : IsSegment kind "" :=
  ⟨nofun, List.not_mem_nil, fun _ => List.not_mem_nil, rfl, rfl⟩

theorem sparesEscapes_inPath : SparesEscapes inPath := ⟨by decide, by decide⟩

/-! ## Resolving -/

/-- What is left behind resolving was there before, or is the empty segment a dot leaves. -/
theorem mem_resolve {front ss : List String} {s : String} (h : s ∈ resolve front ss) :
    s ∈ front ∨ s = "" ∨ (s ∈ ss ∧ isDot s = false ∧ isDoubleDot s = false) := by
  induction ss generalizing front with
  | nil => exact .inl (List.mem_reverse.1 h)
  | cons t ss ih =>
    -- In each case the segments in front are those of before, perhaps with one more.
    have step : ∀ {front'}, s ∈ resolve front' ss →
        (s ∈ front' → s ∈ front ∨ s = "" ∨ (s = t ∧ isDot t = false ∧ isDoubleDot t = false)) →
        s ∈ front ∨ s = "" ∨ (s ∈ t :: ss ∧ isDot s = false ∧ isDoubleDot s = false) := by
      intro front' h stays
      rcases ih h with h | h | ⟨h, plain⟩
      · rcases stays h with h | h | ⟨rfl, plain⟩
        · exact .inl h
        · exact .inr (.inl h)
        · exact .inr (.inr ⟨List.mem_cons_self, plain⟩)
      · exact .inr (.inl h)
      · exact .inr (.inr ⟨List.mem_cons_of_mem t h, plain⟩)
    rw [resolve] at h
    split at h
    · refine step h fun h => ?_
      split at h
      · rcases List.mem_cons.1 h with h | h
        · exact .inr (.inl h)
        · exact .inl (List.mem_of_mem_drop h)
      · exact .inl (List.mem_of_mem_drop h)
    · next undoubled =>
      split at h
      · refine step h fun h => ?_
        split at h
        · rcases List.mem_cons.1 h with h | h
          · exact .inr (.inl h)
          · exact .inl h
        · exact .inl h
      · next undotted =>
        refine step h fun h => ?_
        rcases List.mem_cons.1 h with h | h
        · exact .inr (.inr ⟨h, by simpa using undotted, by simpa using undoubled⟩)
        · exact .inl h

theorem resolve_ne_nil {front ss : List String} (h : ss = [] → front ≠ []) : resolve front ss ≠ [] := by
  induction ss generalizing front with
  | nil => simpa [resolve] using h rfl
  | cons t ss ih =>
    rw [resolve]
    cases ss with
    | nil =>
      -- The last segment leaves one in any case: itself, or the empty one.
      split
      · exact ih fun _ => List.cons_ne_nil _ _
      · split
        · exact ih fun _ => List.cons_ne_nil _ _
        · exact ih fun _ => List.cons_ne_nil _ _
    | cons u ss =>
      split
      · exact ih nofun
      · split
        · exact ih nofun
        · exact ih nofun

/-- Nothing is resolved in what has no dots. -/
theorem resolve_of_plain {front ss : List String} (h : ∀ s ∈ ss, isDot s = false ∧ isDoubleDot s = false) :
    resolve front ss = front.reverse ++ ss := by
  induction ss generalizing front with
  | nil => simp [resolve]
  | cons t ss ih =>
    obtain ⟨undotted, undoubled⟩ := h t List.mem_cons_self
    rw [resolve, undoubled, undotted, if_neg (by decide), if_neg (by decide),
      ih fun s hs => h s (List.mem_cons_of_mem t hs), List.reverse_cons, List.append_assoc]
    rfl

/-! ## Segments -/

theorem readSegments_ne_nil (kind : Kind) (cs : List Char) : readSegments kind cs ≠ [] := by
  unfold readSegments
  have parts : ∀ ds, ((splitAll '/' ds).map (escape inPath)) ≠ [] := fun ds h =>
    splitAll_ne_nil '/' ds (List.map_eq_nil_iff.1 h)
  exact resolve_ne_nil fun h => absurd h (parts _)

/-- What is read is segments. -/
theorem isSegment_of_mem_readSegments {cs : List Char} {s : String} (h : s ∈ readSegments kind cs) :
    IsSegment kind s := by
  unfold readSegments at h
  dsimp only at h
  rcases mem_resolve h with h | rfl | ⟨h, dot, doubleDot⟩
  · cases h
  · exact isSegment_empty
  · obtain ⟨part, hpart, rfl⟩ := List.mem_map.1 h
    obtain ⟨slashFree, inside⟩ := mem_splitAll hpart
    have free : ∀ d, SparesEscapes (· == d) → d ∉ part → d ∉ (escape inPath part).toList := by
      intro d spares hd hmem
      rw [escape, String.toList_ofList] at hmem
      have apart : ∀ c ∈ part, (c == d) = false := by
        intro c hc
        rw [beq_eq_false_iff_ne]
        rintro rfl
        exact hd hc
      exact absurd (spared_percentEncode spares apart d hmem) (by simp)
    refine ⟨?_, free '/' ⟨by decide, by decide⟩ slashFree, fun slashes => ?_, dot, doubleDot⟩
    · rw [escape, String.toList_ofList]
      exact escaped_percentEncode sparesEscapes_inPath part
    · refine free '\\' ⟨by decide, by decide⟩ fun hmem => ?_
      have := inside _ hmem
      rw [if_pos slashes] at this
      obtain ⟨c, -, hc⟩ := List.mem_map.1 this
      split at hc
      · exact absurd hc (by decide)
      · next other => exact other (by simpa using hc)

/-- The text of segments between slashes. -/
def segmentsText (parts : List String) : List Char := List.intercalate ['/'] (parts.map String.toList)

theorem mem_segmentsText {parts : List String} {c : Char} (h : c ∈ segmentsText parts) :
    c = '/' ∨ ∃ s ∈ parts, c ∈ s.toList := by
  rcases mem_intercalate h with slash | ⟨part, hpart, hc⟩
  · exact .inl slash
  · obtain ⟨s, hs, rfl⟩ := List.mem_map.1 hpart
    exact .inr ⟨s, hs, hc⟩

/-- The parts of a text are what was put between the slashes, escaped. -/
theorem split_segmentsText {part : String} {parts : List String}
    (h : ∀ s ∈ part :: parts, '/' ∉ s.toList ∧ Escaped inPath s.toList)
    (backslash : kind.backslash = true → ∀ s ∈ part :: parts, '\\' ∉ s.toList) :
    readSegments kind (segmentsText (part :: parts)) = resolve [] (part :: parts) := by
  have slashed : (if kind.backslash then (segmentsText (part :: parts)).map fun c => if c == '\\' then '/' else c
      else segmentsText (part :: parts)) = segmentsText (part :: parts) := by
    split
    · next slashes =>
      refine (List.map_congr_left fun c hc => if_neg ?_).trans (List.map_id _)
      rcases mem_segmentsText hc with rfl | ⟨s, hs, hc⟩
      · decide
      · exact fun heq => backslash slashes s hs (beq_iff_eq.1 heq ▸ hc)
    · rfl
  have free : ∀ p ∈ part.toList :: parts.map String.toList, '/' ∉ p := by
    rw [← List.map_cons]
    intro p hp
    obtain ⟨s, hs, rfl⟩ := List.mem_map.1 hp
    exact (h s hs).1
  have fixed : ∀ s ∈ part :: parts, escape inPath s.toList = s := fun s hs => by
    rw [escape, percentEncode_of_escaped (h s hs).2, String.ofList_toList]
  unfold readSegments
  dsimp only
  rw [slashed, segmentsText, List.map_cons, splitAll_intercalate free, ← List.map_cons, List.map_map]
  exact congrArg (resolve []) ((List.map_congr_left fixed).trans (List.map_id _))

/-- Segments read back. -/
theorem readSegments_segmentsText {parts : List String} (h : ∀ s ∈ parts, IsSegment kind s) (ne : parts ≠ []) :
    readSegments kind (segmentsText parts) = parts := by
  cases parts with
  | nil => exact absurd rfl ne
  | cons part parts =>
    rw [split_segmentsText (fun s hs => ⟨(h s hs).slash, (h s hs).escaped⟩) fun slashes s hs =>
      (h s hs).backslash slashes, resolve_of_plain fun s hs => ⟨(h s hs).dot, (h s hs).doubleDot⟩]
    rfl

/-- A dot in front of segments is left out. -/
theorem readSegments_dot {parts : List String} (h : ∀ s ∈ parts, IsSegment kind s) (ne : parts ≠ []) :
    readSegments kind (segmentsText ("." :: parts)) = parts := by
  cases parts with
  | nil => exact absurd rfl ne
  | cons part parts =>
    have dot : ∀ c ∈ ".".toList, c = '.' := fun c hc => List.mem_singleton.1 hc
    rw [split_segmentsText]
    · rw [resolve, if_neg (by decide), if_pos (by decide)]
      show resolve [] (part :: parts) = _
      rw [resolve_of_plain fun s hs => ⟨(h s hs).dot, (h s hs).doubleDot⟩]
      rfl
    · intro s hs
      rcases List.mem_cons.1 hs with rfl | hs
      · refine ⟨fun hmem => absurd (dot _ hmem) (by decide), fun c hc => ?_⟩
        rw [dot c hc]
        decide
      · exact ⟨(h s hs).slash, (h s hs).escaped⟩
    · intro slashes s hs
      rcases List.mem_cons.1 hs with rfl | hs
      · exact fun hmem => absurd (dot _ hmem) (by decide)
      · exact (h s hs).backslash slashes

/-! ## The text of a path -/

theorem toList_segments (part : String) (parts : List String) :
    (Path.segments (part :: parts)).text.toList = '/' :: segmentsText (part :: parts) := by
  have slashed : ∀ s : String, ("/" ++ s).toList = '/' :: s.toList := fun s => String.toList_append
  rw [Path.text, String.toList_join, segmentsText]
  induction parts generalizing part with
  | nil => simp [slashed]
  | cons next parts ih =>
    have more : List.intercalate ['/'] ((part :: next :: parts).map String.toList) =
        part.toList ++ ['/'] ++ List.intercalate ['/'] ((next :: parts).map String.toList) :=
      List.intercalate_cons_cons
    rw [List.map_cons, List.flatMap_cons, ih next, slashed, more]
    simp

end QueryGateway.Url
