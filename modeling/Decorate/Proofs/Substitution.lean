import Decorate.Proofs.Binding

/-!
# Substitution

`Instance.fill` fills the places of an instruction one parameter after
the other, and each time it searches the whole text, the fragments that
are already in it included. `Instance.verbatim` is what filling all the
places at once gives: the instruction is cut into `Piece`s first, and no
fragment is looked at again.

The headline is `Instance.render_eq_verbatim`: the two agree as long as
every place is `Undisturbed`, that is, as long as no fragment that was put
in before adds to the occurrences of a placeholder or takes one away;
`render_ne_verbatim` is about a value that does.

The invariant of the loop is that the text is the pieces of the
instruction with the parameters so far filled in and the others still
spelled as placeholders (`filledFor`).
-/

namespace Decorate

/-! ## Counting occurrences -/

namespace Text

variable {needle new : List Char}

/-- The number of places at which `needle` stands in the text. -/
def count (needle : List Char) : List Char → Nat
  | [] => (needle.isPrefixOf []).toNat
  | c :: rest => (needle.isPrefixOf (c :: rest)).toNat + count needle rest

theorem occurs_iff_count_pos {text : List Char} :
    occurs needle text = true ↔ 0 < count needle text := by
  induction text with
  | nil => cases h : needle.isPrefixOf [] <;> simp [occurs, count, h]
  | cons c rest ih =>
      cases h : needle.isPrefixOf (c :: rest) with
      | true => simp [occurs, count, h, Nat.add_comm 1]
      | false => simp [occurs, count, h, ih]

theorem count_le_count_append (xs ys : List Char) :
    count needle ys ≤ count needle (xs ++ ys) := by
  induction xs with
  | nil => exact Nat.le_refl _
  | cons x xs ih => exact Nat.le_trans ih (Nat.le_add_left _ _)

theorem count_lt_count_needle_append (hne : needle ≠ []) (ys : List Char) :
    count needle ys < count needle (needle ++ ys) := by
  cases needle with
  | nil => exact absurd rfl hne
  | cons c cs =>
      have hprefix : (c :: cs).isPrefixOf (c :: (cs ++ ys)) = true := by simp
      have hrest : count (c :: cs) ys ≤ count (c :: cs) (cs ++ ys) :=
        count_le_count_append cs ys
      simp only [List.cons_append, count, hprefix, Bool.toNat_true]
      omega

theorem replaceAfter_append (xs ys : List Char) :
    replaceAfter needle new xs.length (xs ++ ys) = replaceAfter needle new 0 ys := by
  induction xs with
  | nil => rfl
  | cons x xs ih => exact ih

theorem replaceAll_needle_append (hne : needle ≠ []) (ys : List Char) :
    replaceAll needle new (needle ++ ys) = new ++ replaceAll needle new ys := by
  cases needle with
  | nil => exact absurd rfl hne
  | cons c cs =>
      have hprefix : (c :: cs).isPrefixOf (c :: (cs ++ ys)) = true := by simp
      simp only [replaceAll, List.cons_append, replaceAfter, hprefix, if_true,
        List.length_cons, Nat.add_sub_cancel, replaceAfter_append]

/-- Text in front that adds no occurrence is passed over. -/
theorem replaceAll_append_of_count {xs ys : List Char}
    (h : count needle (xs ++ ys) = count needle ys) :
    replaceAll needle new (xs ++ ys) = xs ++ replaceAll needle new ys := by
  induction xs with
  | nil => rfl
  | cons x xs ih =>
      have hrest : count needle ys ≤ count needle (xs ++ ys) := count_le_count_append xs ys
      cases hx : needle.isPrefixOf (x :: (xs ++ ys)) with
      | true =>
          simp only [List.cons_append, count, hx, Bool.toNat_true] at h
          omega
      | false =>
          simp only [List.cons_append, count, hx, Bool.toNat_false, Nat.zero_add] at h
          have ih := ih h
          simp only [replaceAll] at ih ⊢
          simp only [List.cons_append, replaceAfter, hx, Bool.false_eq_true, if_false, ih]

end Text

/-! ## Placeholders -/

namespace Instance

/-- Holds of a text without braces. -/
def IsBraceless (s : String) : Prop := '\x7b' ∉ s.toList ∧ '\x7d' ∉ s.toList

instance (s : String) : Decidable (IsBraceless s) := inferInstanceAs (Decidable (_ ∧ _))

theorem placeholder_ne_nil (p : String) : placeholder p ≠ [] := List.cons_ne_nil _ _

theorem eq_of_prefix_closed {t : List Char} :
    ∀ {xs ys : List Char}, '\x7d' ∉ xs → '\x7d' ∉ ys →
      xs ++ ['\x7d'] <+: ys ++ '\x7d' :: t → xs = ys
  | [], [], _, _, _ => rfl
  | [], y :: ys, _, hys, h => by
      have hy : '\x7d' = y := (List.cons_prefix_cons.mp h).1
      exact absurd (hy ▸ List.mem_cons_self) hys
  | x :: xs, [], hxs, _, h => by
      have hx : x = '\x7d' := (List.cons_prefix_cons.mp h).1
      exact absurd (hx ▸ List.mem_cons_self) hxs
  | x :: xs, y :: ys, hxs, hys, h => by
      obtain ⟨hx, hrest⟩ := List.cons_prefix_cons.mp h
      have hxsys : xs = ys :=
        eq_of_prefix_closed (fun hm => hxs (List.mem_cons_of_mem _ hm))
          (fun hm => hys (List.mem_cons_of_mem _ hm)) hrest
      rw [hx, hxsys]

/-- No placeholder is the beginning of another one. -/
theorem isPrefixOf_placeholder_append {p q : String} (hp : IsBraceless p) (hq : IsBraceless q)
    (t : List Char) :
    (placeholder p).isPrefixOf (placeholder q ++ t) = decide (p = q) := by
  rw [Bool.eq_iff_iff, List.isPrefixOf_iff_prefix, decide_eq_true_iff]
  constructor
  · intro h
    have h : p.toList ++ ['\x7d'] <+: q.toList ++ '\x7d' :: t := by
      simpa [placeholder] using h
    exact String.toList_inj.mp (eq_of_prefix_closed hp.2 hq.2 h)
  · rintro rfl
    exact List.prefix_append _ _

theorem isPrefixOf_placeholder_cons {p : String} {c : Char} (hc : c ≠ '\x7b') (rest : List Char) :
    (placeholder p).isPrefixOf (c :: rest) = false := by
  simp [placeholder, List.isPrefixOf, Ne.symm hc]

/-- A placeholder begins with the only opening brace in it. -/
theorem count_append_of_not_mem {p : String} {xs : List Char} (h : '\x7b' ∉ xs) (ys : List Char) :
    Text.count (placeholder p) (xs ++ ys) = Text.count (placeholder p) ys := by
  induction xs with
  | nil => rfl
  | cons x xs ih =>
      have hx : x ≠ '\x7b' := fun hx => h (hx ▸ List.mem_cons_self)
      have hxs : '\x7b' ∉ xs := fun hm => h (List.mem_cons_of_mem _ hm)
      simp only [List.cons_append, Text.count, isPrefixOf_placeholder_cons hx, Bool.toNat_false,
        Nat.zero_add, ih hxs]

theorem count_placeholder_append {p q : String} (hp : IsBraceless p) (hq : IsBraceless q)
    (t : List Char) :
    Text.count (placeholder p) (placeholder q ++ t)
      = (if p = q then 1 else 0) + Text.count (placeholder p) t := by
  have hinner : '\x7b' ∉ q.toList ++ ['\x7d'] := by
    simpa using hq.1
  have hhead := isPrefixOf_placeholder_append hp hq t
  have htail := count_append_of_not_mem (p := p) hinner t
  change (placeholder p).isPrefixOf ('\x7b' :: (q.toList ++ ['\x7d'] ++ t)) = _ at hhead
  change Text.count _ ('\x7b' :: (q.toList ++ ['\x7d'] ++ t)) = _
  rw [Text.count, hhead, htail]
  by_cases h : p = q <;> simp [h]

end Instance

/-! ## Pieces of an instruction -/

open Instance (placeholder IsBraceless)

/-- A piece of an instruction: a character that stands for itself, or the place of a
parameter. -/
inductive Piece where
  | char (c : Char)
  | place (parameter : String)
deriving DecidableEq

namespace Piece

variable {names : List String} {p : String}

/-- Cuts a text into pieces, after passing over the first `skip` characters: the ones
that belong to a placeholder just read. -/
def readAfter (names : List String) : Nat → List Char → List Piece
  | _, [] => []
  | skip + 1, _ :: rest => readAfter names skip rest
  | 0, c :: rest =>
    match names.find? fun p => (placeholder p).isPrefixOf (c :: rest) with
    | some p => place p :: readAfter names ((placeholder p).length - 1) rest
    | none => char c :: readAfter names 0 rest

/-- Cuts a text into pieces. -/
def read (names : List String) (text : List Char) : List Piece := readAfter names 0 text

/-- The text of a piece, once its place is filled. -/
def text (fill : String → List Char) : Piece → List Char
  | char c => [c]
  | place p => fill p

/-- The text of the pieces, all places being filled at once. -/
def expand (fill : String → List Char) : List Piece → List Char
  | [] => []
  | piece :: rest => piece.text fill ++ expand fill rest

theorem expand_congr {f g : String → List Char} {pieces : List Piece}
    (h : ∀ p, place p ∈ pieces → f p = g p) : expand f pieces = expand g pieces := by
  induction pieces with
  | nil => rfl
  | cons piece rest ih =>
      have ih := ih fun p hp => h p (List.mem_cons_of_mem _ hp)
      have hpiece : piece.text f = piece.text g := by
        cases piece with
        | char c => rfl
        | place p => exact h p List.mem_cons_self
      rw [expand, expand, ih, hpiece]

/-- What a reader finds where a placeholder begins. -/
theorem exists_of_find?_eq_some {c : Char} {rest : List Char}
    (h : names.find? (fun p => (placeholder p).isPrefixOf (c :: rest)) = some p) :
    p ∈ names ∧ c :: rest = placeholder p ++ rest.drop ((placeholder p).length - 1) := by
  refine ⟨List.mem_of_find?_eq_some h, ?_⟩
  have hprefix : placeholder p <+: c :: rest :=
    List.isPrefixOf_iff_prefix.mp (by simpa using List.find?_some h)
  obtain ⟨t, ht⟩ := hprefix
  obtain ⟨rfl, rfl⟩ := List.cons.inj ht
  simp [placeholder]

theorem mem_of_place_mem_readAfter :
    ∀ (text : List Char) (skip : Nat), place p ∈ readAfter names skip text → p ∈ names
  | [], _, h => by simp [readAfter] at h
  | _ :: rest, skip + 1, h => mem_of_place_mem_readAfter rest skip h
  | c :: rest, 0, h => by
      rw [readAfter] at h
      split at h
      · rename_i q hq
        rcases List.mem_cons.mp h with h | h
        · cases h
          exact List.mem_of_find?_eq_some hq
        · exact mem_of_place_mem_readAfter rest _ h
      · rcases List.mem_cons.mp h with h | h
        · cases h
        · exact mem_of_place_mem_readAfter rest _ h

theorem expand_readAfter :
    ∀ (text : List Char) (skip : Nat),
      expand placeholder (readAfter names skip text) = text.drop skip
  | [], _ => by simp [readAfter, expand]
  | _ :: rest, skip + 1 => expand_readAfter rest skip
  | c :: rest, 0 => by
      rw [readAfter]
      split
      · rename_i p hp
        rw [expand, text, expand_readAfter, ← (exists_of_find?_eq_some hp).2, List.drop_zero]
      · rw [expand, text, expand_readAfter, List.drop_zero, List.drop_zero, List.singleton_append]

/-- The occurrences of a placeholder are the places that the reader finds. -/
theorem count_readAfter (hnames : ∀ p ∈ names, IsBraceless p) (hp : p ∈ names) :
    ∀ (text : List Char) (skip : Nat),
      Text.count (placeholder p) (text.drop skip) = (readAfter names skip text).count (place p)
  | [], skip => by simp [readAfter, Text.count, placeholder]
  | _ :: rest, skip + 1 => count_readAfter hnames hp rest skip
  | c :: rest, 0 => by
      rw [readAfter]
      split
      · rename_i q hq
        obtain ⟨hqmem, htext⟩ := exists_of_find?_eq_some hq
        rw [List.drop_zero, htext,
          Instance.count_placeholder_append (hnames p hp) (hnames q hqmem),
          count_readAfter hnames hp rest, List.count_cons, Nat.add_comm]
        by_cases h : p = q <;> simp [h, Ne.symm]
      · rename_i hnone
        have hhead : (placeholder p).isPrefixOf (c :: rest) = false :=
          Bool.eq_false_iff.mpr (List.find?_eq_none.mp hnone p hp)
        have ih := count_readAfter hnames hp rest 0
        rw [List.drop_zero] at ih
        rw [List.drop_zero, Text.count, hhead, ih, List.count_cons]
        simp

/-! ## Filling one more place -/

variable {f g : String → List Char} {pieces : List Piece}

theorem count_le_count_expand (hf : f p = placeholder p) :
    pieces.count (place p) ≤ Text.count (placeholder p) (expand f pieces) := by
  induction pieces with
  | nil => exact Nat.zero_le _
  | cons piece rest ih =>
      rw [expand]
      by_cases h : piece = place p
      · have hlt :=
          Text.count_lt_count_needle_append (Instance.placeholder_ne_nil p) (expand f rest)
        rw [h, List.count_cons_self, text, hf]
        omega
      · rw [List.count_cons_of_ne h]
        exact Nat.le_trans ih (Text.count_le_count_append _ _)

/-- Replacing a placeholder fills its places, if it stands nowhere else. -/
theorem replaceAll_expand (hf : f p = placeholder p) (hother : ∀ q, q ≠ p → g q = f q)
    (hcount : Text.count (placeholder p) (expand f pieces) = pieces.count (place p)) :
    Text.replaceAll (placeholder p) (g p) (expand f pieces) = expand g pieces := by
  induction pieces with
  | nil => rfl
  | cons piece rest ih =>
      have hrest : rest.count (place p) ≤ Text.count (placeholder p) (expand f rest) :=
        count_le_count_expand hf
      rw [expand] at hcount ⊢
      rw [expand]
      by_cases h : piece = place p
      · have hlt :=
          Text.count_lt_count_needle_append (Instance.placeholder_ne_nil p) (expand f rest)
        rw [h, text, hf] at hcount ⊢
        rw [List.count_cons_self] at hcount
        rw [Text.replaceAll_needle_append (Instance.placeholder_ne_nil p), ih (by omega), text]
      · rw [List.count_cons_of_ne h] at hcount
        have hsame : Text.count (placeholder p) (piece.text f ++ expand f rest)
            = Text.count (placeholder p) (expand f rest) :=
          Nat.le_antisymm (Nat.le_trans (Nat.le_of_eq hcount) hrest)
            (Text.count_le_count_append _ _)
        have hpiece : piece.text g = piece.text f := by
          cases piece with
          | char c => rfl
          | place q => exact hother q fun hq => h (hq ▸ rfl)
        rw [Text.replaceAll_append_of_count hsame, ih (hsame.symm.trans hcount), hpiece]

end Piece

/-! ## Rendering -/

namespace Instance

variable {i : Instance}

/-- The instruction, cut at the places of the declared parameters. -/
def pieces (i : Instance) : List Piece :=
  Piece.read (i.definition.parameters.map Schema.name) i.definition.template.instruction.toList

/-- The instruction with the places of some parameters filled and the others as they
were. -/
def filledFor (i : Instance) (done : List Schema) : List Char :=
  Piece.expand
    (fun p => if p ∈ done.map Schema.name then (i.fragment p).toList else placeholder p) i.pieces

/-- The instruction with all places filled at once. -/
def filled (i : Instance) : List Char := Piece.expand (fun p => (i.fragment p).toList) i.pieces

/-- Holds when the instruction keeps a place for the parameter. -/
def hasPlace (i : Instance) (s : Schema) : Bool :=
  Text.occurs (placeholder s.name) i.definition.template.instruction.toList

/-- The fragments of the parameters without a place, in declared order. -/
def unplaced (i : Instance) (schemas : List Schema) : List String :=
  ((schemas.filter fun s => !i.hasPlace s).map fun s => i.fragment s.name).filter
    fun text => !Text.isBlank text

/-- The text of an accumulating decorator, every fragment being put in as it is. -/
def verbatim (i : Instance) : String :=
  Text.join paragraphBreak
    ((String.ofList i.filled :: i.unplaced i.definition.parameters).filter
      fun text => !Text.isBlank text)

/-- Holds when each placeholder stands, at the time it is replaced, where it stands in the
instruction: the fragments put in before neither add to its occurrences nor take one
away. -/
def Undisturbed (i : Instance) : Prop :=
  ∀ k, (h : k < i.definition.parameters.length) →
    Text.count (placeholder i.definition.parameters[k].name)
        (i.filledFor (i.definition.parameters.take k))
      = Text.count (placeholder i.definition.parameters[k].name)
          i.definition.template.instruction.toList

instance (i : Instance) : Decidable i.Undisturbed :=
  inferInstanceAs (Decidable (∀ k, (h : k < i.definition.parameters.length) → _))

theorem Undisturbed.of_split (h : i.Undisturbed) {done rest : List Schema} {s : Schema}
    (hsplit : i.definition.parameters = done ++ s :: rest) :
    Text.count (placeholder s.name) (i.filledFor done)
      = Text.count (placeholder s.name) i.definition.template.instruction.toList := by
  have hk : done.length < i.definition.parameters.length := by simp [hsplit]
  have hs : i.definition.parameters[done.length] = s := by simp [hsplit]
  have htake : i.definition.parameters.take done.length = done := by simp [hsplit]
  simpa only [hs, htake] using h done.length hk

/-- Parameters are declared once. -/
theorem name_not_mem_of_split {done rest : List Schema} {s : Schema}
    (hsplit : i.definition.parameters = done ++ s :: rest) : s.name ∉ done.map Schema.name := by
  have hnodup : ((done ++ s :: rest).map Schema.name).Nodup :=
    hsplit ▸ i.definition.names_nodup
  rw [List.map_append, List.nodup_append] at hnodup
  exact fun hmem => hnodup.2.2 _ hmem _ List.mem_cons_self rfl

theorem place_mem_pieces {p : String} (h : .place p ∈ i.pieces) :
    p ∈ i.definition.parameters.map Schema.name :=
  Piece.mem_of_place_mem_readAfter _ 0 h

theorem filledFor_nil (i : Instance) :
    i.filledFor [] = i.definition.template.instruction.toList := by
  have hfill : (fun p => if p ∈ ([] : List Schema).map Schema.name then (i.fragment p).toList
      else placeholder p) = placeholder := by
    funext p
    simp
  rw [filledFor, hfill]
  exact Piece.expand_readAfter _ 0

theorem filledFor_parameters (i : Instance) : i.filledFor i.definition.parameters = i.filled :=
  Piece.expand_congr fun _ hp => if_pos (place_mem_pieces hp)

section

variable (hnames : ∀ s ∈ i.definition.parameters, IsBraceless s.name)

include hnames

theorem isBraceless_of_mem_map {p : String} (hp : p ∈ i.definition.parameters.map Schema.name) :
    IsBraceless p := by
  obtain ⟨s, hs, rfl⟩ := List.mem_map.mp hp
  exact hnames s hs

theorem count_instruction {s : Schema} (hs : s ∈ i.definition.parameters) :
    Text.count (placeholder s.name) i.definition.template.instruction.toList
      = i.pieces.count (.place s.name) :=
  Piece.count_readAfter (fun _ hp => isBraceless_of_mem_map hnames hp)
    (List.mem_map_of_mem hs) _ 0

variable (hu : i.Undisturbed)

include hu

/-- One step of the loop keeps the invariant: it fills the places of one more
parameter. -/
theorem replaceAll_filledFor {done rest : List Schema} {s : Schema}
    (hsplit : i.definition.parameters = done ++ s :: rest) :
    Text.replaceAll (placeholder s.name) (i.fragment s.name).toList (i.filledFor done)
      = i.filledFor (done ++ [s]) := by
  have hs : s ∈ i.definition.parameters := by simp [hsplit]
  have hcount := (hu.of_split hsplit).trans (count_instruction hnames hs)
  have h := Piece.replaceAll_expand (p := s.name)
    (g := fun p => if p ∈ (done ++ [s]).map Schema.name then (i.fragment p).toList
      else placeholder p)
    (if_neg (name_not_mem_of_split hsplit)) (fun q hq => by simp [hq]) hcount
  simpa [filledFor] using h

/-- Over the whole loop: the places are filled, and the fragments without one are
collected. -/
theorem fill_filledFor :
    ∀ (rest done : List Schema), i.definition.parameters = done ++ rest →
      i.fill rest (i.filledFor done) = (i.filledFor (done ++ rest), i.unplaced rest)
  | [], done, _ => by simp [fill, unplaced]
  | s :: rest, done, hsplit => by
      have ih := fill_filledFor rest (done ++ [s]) (by simpa using hsplit)
      rw [List.append_assoc, List.singleton_append] at ih
      have hstep := replaceAll_filledFor hnames hu hsplit
      have hoccurs : Text.occurs (placeholder s.name) (i.filledFor done) = i.hasPlace s := by
        rw [hasPlace, Bool.eq_iff_iff, Text.occurs_iff_count_pos, Text.occurs_iff_count_pos,
          hu.of_split hsplit]
      rw [fill, hoccurs]
      cases hplace : i.hasPlace s with
      | true =>
          simp only [if_true, hstep, ih]
          simp [unplaced, hplace]
      | false =>
          -- nothing is replaced, so the parameter counts as filled
          rw [Text.replaceAll_of_not_occurs (hoccurs.trans hplace)] at hstep
          simp only [Bool.false_eq_true, if_false, hstep, ih]
          cases hblank : Text.isBlank (i.fragment s.name) <;>
            simp [unplaced, hplace, hblank]

/-- **Fragments are put in verbatim.** Filling the places one after the other gives the
instruction with all places filled at once, and appends exactly the fragments of the
parameters that the instruction keeps no place for. -/
theorem render_eq_verbatim (hbehavior : i.behavior = .accumulate) :
    i.fill i.definition.parameters i.definition.template.instruction.toList
        = (i.filled, i.unplaced i.definition.parameters)
      ∧ i.render = i.verbatim := by
  have hfill : i.fill i.definition.parameters i.definition.template.instruction.toList
      = (i.filled, i.unplaced i.definition.parameters) := by
    rw [← filledFor_nil, fill_filledFor hnames hu _ [] rfl, List.nil_append,
      filledFor_parameters]
  refine ⟨hfill, ?_⟩
  simp only [render, hfill, verbatim, hbehavior]
  rw [if_neg (by simp)]

end

/-- A decorator that keeps places for two of its three parameters. -/
def lesson : Definition where
  name := ⟨"Lesson", rfl⟩
  version := .one
  category := "style"
  description := none
  parameters :=
    [{ name := "topic", shape := .simple .text {} }, { name := "style", shape := .simple .text {} },
     { name := "note", shape := .simple .text {} }]
  template :=
    { instruction := "Teach \x7btopic\x7d in \x7bstyle\x7d.",
      mapping := .ofList
        [("topic", .format "\x7bvalue\x7d"), ("style", .format "a \x7bvalue\x7d style"),
         ("note", .format "\x7bvalue\x7d")] }
  compatibility := {}
  declared := by decide +kernel
  mapped := by decide +kernel
  consistent := ⟨rfl, rfl, rfl⟩

def lessonParameters : Json.Members :=
  [("note", .str "Fill \x7btopic\x7d."), ("style", .str "\x7bplain\x7d"), ("topic", .str "sets")]

/-- Braces in a value are harmless where they spell no place that is still to be filled, and
a fragment that is appended may spell any. -/
theorem render_lesson :
    ∃ i, bind lesson lessonParameters = .ok i
      ∧ (∀ s ∈ i.definition.parameters, IsBraceless s.name) ∧ i.behavior = .accumulate
      ∧ i.Undisturbed ∧ i.unplaced i.definition.parameters = ["Fill \x7btopic\x7d."]
      ∧ i.render = i.verbatim := by
  obtain ⟨i, hi, hnames, hbehavior, hu, hunplaced⟩ : ∃ i, bind lesson lessonParameters = .ok i
      ∧ (∀ s ∈ i.definition.parameters, IsBraceless s.name) ∧ i.behavior = .accumulate
      ∧ i.Undisturbed ∧ i.unplaced i.definition.parameters = ["Fill \x7btopic\x7d."] :=
    ⟨_, rfl, by decide +kernel, rfl, by decide +kernel, by decide +kernel⟩
  exact ⟨i, hi, hnames, hbehavior, hu, hunplaced, (render_eq_verbatim hnames hu hbehavior).2⟩

/-- A decorator that keeps a place for the first of its two parameters. -/
def remark : Definition where
  name := ⟨"Note", rfl⟩
  version := .one
  category := ""
  description := none
  parameters :=
    [{ name := "a", shape := .simple .text {} }, { name := "b", shape := .simple .text {} }]
  template :=
    { instruction := "\x7ba\x7d",
      mapping := .ofList [("a", .format "\x7bvalue\x7d"), ("b", .format "\x7bvalue\x7d")] }
  compatibility := {}
  declared := by decide +kernel
  mapped := by decide +kernel
  consistent := ⟨rfl, rfl, rfl⟩

/-- The value of the first parameter spells the placeholder of the second one. The fragment
of the second one then stands where that value should. -/
theorem render_ne_verbatim :
    ∃ i, bind remark [("a", .str "\x7bb\x7d"), ("b", .str "x")] = .ok i
      ∧ (∀ s ∈ i.definition.parameters, IsBraceless s.name) ∧ i.behavior = .accumulate
      ∧ i.verbatim = "\x7bb\x7d\n\nx" ∧ i.render = "x" :=
  ⟨_, rfl, by decide +kernel, rfl, by decide +kernel, by decide +kernel⟩

end Instance

end Decorate
