import Decorate.Proofs.Written
import Decorate.Version.Reader

/-!
# Versions read back

`Version.text` loses nothing: `Version.ofString` reads it as the version
it was written for (`ofString_text`). A part of the text ends where the
mark of the next one stands, a dot, a hyphen or a plus sign, and none of
these can be in the part itself: numbers are digits, and the hyphen that
a segment may contain is only looked for after the patch number.
-/

namespace Decorate

namespace Version

/-! ## Numbers -/

theorem readNumber_number (part : Part) (n : UInt64) {rest : List Char}
    (hrest : ∀ c, rest.head? = some c → c.isDigit = false) :
    readNumber part ((number n).toList ++ rest) = .ok (n, rest) := by
  obtain ⟨htake, hdrop⟩ :=
    takeWhile_isDigit_append rest (toDigits_all_isDigit n.toNat) hrest
  obtain ⟨c, cs, hdigits⟩ := List.exists_cons_of_ne_nil (Nat.toDigits_ne_nil (n := n.toNat))
  have hvalue : Nat.ofDigitChars 10 (c :: cs) 0 = n.toNat := by
    rw [← hdigits, Nat.ofDigitChars_ten_toDigits]
  have hzero : ¬ (c = '0' ∧ cs ≠ []) := by
    rintro ⟨rfl, hcs⟩
    obtain ⟨d, ds, rfl⟩ := List.exists_cons_of_ne_nil hcs
    exact toDigits_ne_zero_cons n.toNat d ds hdigits
  simp only [readNumber, number, String.toList_ofList]
  rw [htake, hdrop, hdigits]
  simp only [if_neg hzero, hvalue]
  rw [if_pos n.toNat_lt, UInt64.ofNat_toNat]

/-! ## Tags -/

/-- The characters of a segment, as they are cut out of a tag. -/
def chunkOf (s : Segment) : Chunk := ⟨s.chars, s.valid⟩

/-- Holds of the texts that can follow a tag. -/
def EndsTag (tail : List Char) : Prop :=
  ∀ c, tail.head? = some c → c ≠ '.' ∧ Segment.isSegmentChar c = false

theorem splitChunks_of_endsTag {tail : List Char} (h : EndsTag tail) :
    splitChunks tail = (⟨[], rfl⟩, [], tail) := by
  cases tail with
  | nil => rfl
  | cons c rest =>
      obtain ⟨hdot, hchar⟩ := h c rfl
      rw [splitChunks, if_neg hdot, dif_neg (by rw [hchar]; exact Bool.false_ne_true)]

theorem splitChunks_append {cs rest tail : List Char} {more : List Chunk}
    (hcs : cs.all Segment.isSegmentChar = true) (h : splitChunks rest = (⟨[], rfl⟩, more, tail)) :
    splitChunks (cs ++ rest) = (⟨cs, hcs⟩, more, tail) := by
  induction cs with
  | nil => exact h
  | cons c cs ih =>
      have hc : Segment.isSegmentChar c = true ∧ cs.all Segment.isSegmentChar = true := by
        simpa using hcs
      have hdot : c ≠ '.' := by
        rintro rfl
        exact absurd hc.1 (by decide)
      rw [List.cons_append, splitChunks, if_neg hdot, dif_pos hc.1]
      simp only [ih hc.2]

theorem tagText_cons_cons (s t : Segment) (rest : List Segment) :
    (tagText (s :: t :: rest)).toList = s.chars ++ '.' :: (tagText (t :: rest)).toList := by
  simp [tagText, Text.join, Segment.text]

theorem splitChunks_tagText {tail : List Char} (htail : EndsTag tail) :
    ∀ (s : Segment) (rest : List Segment),
      splitChunks ((tagText (s :: rest)).toList ++ tail) = (chunkOf s, rest.map chunkOf, tail)
  | s, [] => by
      have htext : (tagText [s]).toList = s.chars := by simp [tagText, Segment.text]
      rw [htext]
      exact splitChunks_append s.valid (splitChunks_of_endsTag htail)
  | s, t :: rest => by
      rw [tagText_cons_cons, List.append_assoc, List.cons_append]
      refine splitChunks_append s.valid ?_
      rw [splitChunks, if_pos rfl, splitChunks_tagText htail t rest]
      rfl

theorem segmentsOf_chunks (part : Part) {admits : Segment → Bool} :
    ∀ {segments : List Segment} (h : segments.all admits = true),
      segmentsOf part admits (segments.map chunkOf) = .ok ⟨segments, h⟩
  | [], _ => rfl
  | s :: rest, h => by
      have hs : admits s = true ∧ rest.all admits = true := by simpa using h
      have hne : (chunkOf s).val ≠ [] := s.nonempty
      rw [List.map_cons, segmentsOf, dif_neg hne]
      simp only [chunkOf, hs.1, dif_pos, segmentsOf_chunks part hs.2]

/-- The part of a version that its mark announces, if there is one. -/
def tagged (mark : Char) (segments : List Segment) : List Char :=
  if segments.isEmpty then [] else mark :: (tagText segments).toList

theorem readTag_tagged (mark : Char) (part before : Part) {admits : Segment → Bool}
    {segments : List Segment} (h : segments.all admits = true) {tail : List Char}
    (htail : EndsTag tail) (hmark : tail.head? ≠ some mark) :
    ∃ last, readTag mark part before admits (tagged mark segments ++ tail)
      = .ok (⟨segments, h⟩, last, tail) := by
  cases segments with
  | nil =>
      refine ⟨before, ?_⟩
      cases tail with
      | nil => rfl
      | cons c rest =>
          have hc : c ≠ mark := by simpa using hmark
          simp [tagged, readTag, hc]
  | cons s rest =>
      refine ⟨part, ?_⟩
      have hsegments := segmentsOf_chunks part h
      rw [List.map_cons] at hsegments
      simp only [tagged, List.isEmpty_cons, Bool.false_eq_true, if_false, List.cons_append, readTag,
        if_true, splitChunks_tagText htail, hsegments]

/-! ## Whole versions -/

theorem toList_text (v : Version) :
    v.text.toList = (number v.major).toList ++ '.' :: ((number v.minor).toList
      ++ '.' :: ((number v.patch).toList ++ (tagged '-' v.pre ++ (tagged '+' v.build ++ [])))) := by
  have htag (mark : Char) (segments : List Segment) :
      (if segments.isEmpty then "" else String.ofList [mark] ++ tagText segments).toList
        = tagged mark segments := by
    unfold tagged
    split <;> simp
  simp only [text, String.toList_append, ← htag, preText, buildText, List.append_nil,
    List.append_assoc]
  rfl

theorem endsTag_tagged_build (segments : List Segment) : EndsTag (tagged '+' segments ++ []) := by
  cases segments with
  | nil => simp [tagged, EndsTag]
  | cons s rest => simp [tagged, EndsTag, Segment.isSegmentChar]

theorem isDigit_head_tagged (v : Version) (c : Char)
    (h : (tagged '-' v.pre ++ (tagged '+' v.build ++ [])).head? = some c) : c.isDigit = false := by
  cases hpre : v.pre <;> cases hbuild : v.build <;> simp [tagged, hpre, hbuild] at h <;> subst h <;>
    rfl

theorem ofChars_text (v : Version) : ofChars v.text.toList = .ok v := by
  have hend : EndsTag [] := by simp [EndsTag]
  have hall : v.build.all (fun _ => true) = true := by simp
  obtain ⟨last, hpre⟩ := readTag_tagged '-' .pre .patch v.canonical
    (endsTag_tagged_build v.build) (by cases v.build <;> simp [tagged])
  obtain ⟨_, hbuild⟩ := readTag_tagged '+' .build last hall hend (by simp)
  rw [toList_text, ofChars, if_neg (by simp)]
  simp only [bind, Except.bind, pure, Except.pure]
  rw [readNumber_number _ _ (by simp)]
  simp only [readDot]
  rw [readNumber_number _ _ (by simp)]
  simp only
  rw [readNumber_number _ _ (isDigit_head_tagged v)]
  simp only [hpre, hbuild]

theorem isBlankChar_of_isSegmentChar {c : Char} (h : Segment.isSegmentChar c = true) :
    Text.isBlankChar c = false := by
  rcases Bool.or_eq_true_iff.mp h with h | h
  · exact (Invocation.isBareChar_of_isNameChar (by simp [Name.isNameChar, h])).1
  · rw [eq_of_beq h]
    rfl

theorem not_blank_of_mem_tagText {c : Char} :
    ∀ {segments : List Segment}, c ∈ (tagText segments).toList → Text.isBlankChar c = false
  | [], h => by simp [tagText] at h
  | [s], h => by
      have hc : c ∈ s.chars := by simpa [tagText, Segment.text] using h
      exact isBlankChar_of_isSegmentChar (List.all_eq_true.mp s.valid c hc)
  | s :: t :: rest, h => by
      rw [tagText_cons_cons] at h
      rcases List.mem_append.mp h with h | h
      · exact isBlankChar_of_isSegmentChar (List.all_eq_true.mp s.valid c h)
      · rcases List.mem_cons.mp h with rfl | h
        · rfl
        · exact not_blank_of_mem_tagText h

theorem not_blank_of_mem_tagged {mark c : Char} (hmark : Text.isBlankChar mark = false)
    {segments : List Segment} (h : c ∈ tagged mark segments) : Text.isBlankChar c = false := by
  unfold tagged at h
  split at h
  · cases h
  · rcases List.mem_cons.mp h with rfl | h
    · exact hmark
    · exact not_blank_of_mem_tagText h

theorem not_blank_of_mem_text {v : Version} {c : Char} (h : c ∈ v.text.toList) :
    Text.isBlankChar c = false := by
  have hnumber {n : UInt64} (hc : c ∈ (number n).toList) : Text.isBlankChar c = false := by
    have hdigit : c.isDigit = true :=
      List.all_eq_true.mp (toDigits_all_isDigit n.toNat) c (by simpa [number] using hc)
    exact isBlankChar_of_isSegmentChar (by simp [Segment.isSegmentChar, Char.isAlphanum, hdigit])
  rw [toList_text] at h
  simp only [List.mem_append, List.mem_cons, List.not_mem_nil, or_false] at h
  rcases h with h | rfl | h | rfl | h | h | h
  · exact hnumber h
  · rfl
  · exact hnumber h
  · rfl
  · exact hnumber h
  · exact not_blank_of_mem_tagged rfl h
  · exact not_blank_of_mem_tagged rfl h

/-- **A version reads back from its text.** -/
theorem ofString_text (v : Version) : ofString v.text = .ok v := by
  simp only [ofString, Invocation.trimChars_of_not_blank fun _ => not_blank_of_mem_text,
    ofChars_text]

end Version

end Decorate
