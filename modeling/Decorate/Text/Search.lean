/-!
# Searching and joining

Looking for a piece of text, replacing every occurrence of it, and
joining pieces with a separator.

Occurrences are taken from the left and do not overlap; the text put in
their place is not searched again. `replaceAll_of_not_occurs` says that
nothing else changes.
-/

namespace Decorate

namespace Text

/-! ## Occurrences -/

/-- Holds when `needle` stands somewhere in the text. -/
def occurs (needle : List Char) : List Char → Bool
  | [] => needle.isPrefixOf []
  | c :: rest => needle.isPrefixOf (c :: rest) || occurs needle rest

/-- Replaces the occurrences of `needle`, after passing over the first `skip`
characters: the ones that an occurrence just replaced has used up. -/
def replaceAfter (needle new : List Char) : Nat → List Char → List Char
  | _, [] => []
  | skip + 1, _ :: rest => replaceAfter needle new skip rest
  | 0, c :: rest =>
    if needle.isPrefixOf (c :: rest) then
      new ++ replaceAfter needle new (needle.length - 1) rest
    else
      c :: replaceAfter needle new 0 rest

/-- Replaces every occurrence of a needle that is not empty. -/
def replaceAll (needle new text : List Char) : List Char := replaceAfter needle new 0 text

theorem replaceAll_of_not_occurs {needle new : List Char} :
    ∀ {text : List Char}, occurs needle text = false → replaceAll needle new text = text
  | [], _ => rfl
  | c :: rest, h => by
    simp only [occurs, Bool.or_eq_false_iff] at h
    have ih : replaceAll needle new rest = rest := replaceAll_of_not_occurs h.2
    simp only [replaceAll] at ih ⊢
    simp [replaceAfter, h.1, ih]

/-! ## Joining -/

def join (separator : String) : List String → String
  | [] => ""
  | [s] => s
  | s :: t :: rest => s ++ separator ++ join separator (t :: rest)

@[simp] theorem join_nil {separator : String} : join separator [] = "" := rfl

@[simp] theorem join_singleton {separator s : String} : join separator [s] = s := rfl

end Text

end Decorate
