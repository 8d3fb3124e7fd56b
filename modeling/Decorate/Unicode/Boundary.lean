import Decorate.Unicode.Property
import Decorate.Unicode.Script

/-!
# Boundaries in text

Unicode finds the boundaries of characters as a reader sees them, of
words and of sentences by sorting characters into kinds. Three tables
list the kinds of the three sortings by their plain names; what is of
no listed kind has no name here.
-/

namespace Decorate

namespace Unicode

/-- A kind of characters in a sorting, by its long and short plain names. -/
abbrev Kind := String × String × CharSet

def carriageReturn : CharSet := .single '\r'

def lineFeed : CharSet := .single '\n'

def zeroWidthJoiner : CharSet := .single '\u200d'

/-- The kind of that plain name in a sorting. -/
def kind? (kinds : List Kind) (name : String) : Option CharSet :=
  (kinds.find? fun (long, short, _) => name == long || name == short).map (·.2.2)

/-! ## Characters as read -/

/-- Marks and skin tones, which belong to the character before. -/
def graphemeExtension : CharSet := graphemeExtend ∪ emojiModifier

/-- The syllables of Hangul. -/
def hangulBlock : CharSet := .range 0xac00 0xd7a3

/-- The syllables of Hangul without a final consonant: the first of each 28. -/
def hangulOpen : CharSet :=
  .ofToggles ((List.range 399).flatMap fun i => [0xac00 + 28 * i, 0xac00 + 28 * i + 1])

/-- Spacing marks that do not belong to the character before. -/
def freeSpacingMark : CharSet := .ofRows
  ["102b-102c 1038 1062-1064 1067-106d 1083 1087-108c 108f 109a-109c 1a61 1a63-1a64 aa7b",
   "aa7d 11720-11721"]

/-- Vowels that belong to the consonant before. -/
def spacingVowels : CharSet := .ofRows ["e33 eb3"]

/-- Marks and vowels with a width of their own that belong to the character before. -/
def graphemeSpacingMark : CharSet :=
  (Category.spacingMark.set \ (graphemeExtension ∪ freeSpacingMark)) ∪ spacingVowels

/-- Letters that belong to the character after. -/
def prependedLetter : CharSet := .ofRows
  ["d4e 111c2-111c3 113d1 1193f 11941 11a3a 11a84-11a89 11d46 11f02"]

/-- Leading consonants of Hangul. -/
def hangulLeading : CharSet := .ofRows ["1100-115f a960-a97c"]

/-- Vowels of Hangul. -/
def hangulVowel : CharSet := .ofRows ["1160-11a7 d7b0-d7c6 16d63 16d67-16d6a"]

/-- Trailing consonants of Hangul. -/
def hangulTrailing : CharSet := .ofRows ["11a8-11ff d7cb-d7fb"]

/-- Characters that never belong to a neighbour. -/
def graphemeControl : CharSet :=
  (ofCategories (fun
    | .lineSeparator | .paragraphSeparator | .control | .formatting => true
    | _ => false) ∪ (Category.unassigned.set ∩ defaultIgnorable))
    \ (carriageReturn ∪ lineFeed ∪ joinControl ∪ prependedConcatenationMark ∪ graphemeExtend)

def graphemeKinds : List Kind :=
  [("cr", "cr", carriageReturn), ("control", "cn", graphemeControl),
   ("extend", "ex", graphemeExtension), ("l", "l", hangulLeading), ("lf", "lf", lineFeed),
   ("lv", "lv", hangulOpen), ("lvt", "lvt", hangulBlock \ hangulOpen),
   ("prepend", "pp", prependedConcatenationMark ∪ prependedLetter),
   ("regionalindicator", "ri", regionalIndicator),
   ("spacingmark", "sm", graphemeSpacingMark),
   ("t", "t", hangulTrailing), ("v", "v", hangulVowel), ("zwj", "zwj", zeroWidthJoiner)]

/-! ## Words -/

/-- Format characters that go with digits. -/
def numericFormat : CharSet := .ofRows ["600-605 6dd 890-891 8e2 110bd 110cd"]

/-- Marks, joined to the word they follow. -/
def wordExtension : CharSet := graphemeExtend ∪ Category.spacingMark.set ∪ emojiModifier

/-- Format characters that divide words or belong to letters. -/
def wordlessFormat : CharSet := .ofRows ["70f 200b 200d"]

/-- Format characters, joined to the word they follow. -/
def wordFormat : CharSet :=
  Category.formatting.set \ (wordExtension ∪ numericFormat ∪ wordlessFormat)

/-- Signs that go with Katakana. -/
def katakanaSigns : CharSet := .ofRows ["3031-3035 309b-309c 30a0 30fc ff70"]

def scriptSet (name : String) : CharSet := (script? name).elim .none (·.set)

/-- Katakana and its signs. -/
def wordKatakana : CharSet := scriptSet "katakana" ∪ katakanaSigns

/-- The letters of Hebrew. -/
def hebrewLetter : CharSet := scriptSet "hebrew" ∩ Category.otherLetter.set

/-- Letters of scripts that write without spaces. -/
def spacelessLetter : CharSet := .ofRows
  ["e01-e30 e32-e33 e40-e46 e81-e82 e84 e86-e8a e8c-ea3 ea5 ea7-eb0 eb2-eb3 ebd ec0-ec4",
   "ec6 edc-edf 1000-102a 103f 1050-1055 105a-105d 1061 1065-1066 106e-1070 1075-1081 108e",
   "1780-17b3 17d7 17dc 1950-196d 1970-1974 1980-19ab 19b0-19c9 1a20-1a54 1aa7 a9e0-a9e4",
   "a9e6-a9ef a9fa-a9fe aa60-aa76 aa7a aa7e-aaaf aab1 aab5-aab6 aab9-aabd aac0 aac2",
   "aadb-aadd 11700-1171a 11740-11746"]

/-- Signs that go with letters. -/
def wordSign : CharSet := .ofRows
  ["b8 2c2-2c5 2d2-2d7 2de-2df 2e5-2eb 2ed 2ef-2ff 55a-55c 55e 58a 5f3 70f a708-a716",
   "a720-a721 a789-a78a ab5b"]

/-- Letters that make words. -/
def wordLetter : CharSet :=
  (alphabetic ∪ wordSign)
    \ (ideographic ∪ wordKatakana ∪ scriptSet "hiragana" ∪ hebrewLetter ∪ wordExtension
      ∪ spacelessLetter)

/-- Digits and signs that go with digits, besides the decimal digits. -/
def otherNumeric : CharSet := .ofRows ["66b 19da"]

/-- Punctuation that joins letters. -/
def midLetter : CharSet := .ofRows ["3a b7 387 55f 5f4 2027 fe13 fe55 ff1a"]

/-- Punctuation that joins digits. -/
def midNumber : CharSet := .ofRows
  ["2c 3b 37e 589 60c-60d 66c 7f8 2044 fe50 fe54 ff0c ff1b"]

/-- Punctuation that joins letters as well as digits. -/
def midNumberLetter : CharSet := .ofRows ["2e 2018-2019 2024 fe52 ff07 ff0e"]

/-- Punctuation that is part of words and numbers. -/
def extendNumberLetter : CharSet := .ofRows
  ["5f 202f 203f-2040 2054 fe33-fe34 fe4d-fe4f ff3f"]

/-- Line ends other than the two of ASCII. -/
def newline : CharSet := .ofRows ["b-c 85 2028-2029"]

/-- Spaces that stay together. -/
def wordSpace : CharSet := .ofRows ["20 1680 2000-2006 2008-200a 205f 3000"]

def wordKinds : List Kind :=
  [("aletter", "le", wordLetter), ("cr", "cr", carriageReturn), ("doublequote", "dq", .single '"'),
   ("extend", "extend", wordExtension), ("extendnumlet", "ex", extendNumberLetter),
   ("format", "fo", wordFormat), ("hebrewletter", "hl", hebrewLetter),
   ("katakana", "ka", wordKatakana), ("lf", "lf", lineFeed), ("midletter", "ml", midLetter),
   ("midnum", "mn", midNumber), ("midnumlet", "mb", midNumberLetter), ("newline", "nl", newline),
   ("numeric", "nu", Category.decimalNumber.set ∪ otherNumeric ∪ numericFormat),
   ("regionalindicator", "ri", regionalIndicator), ("singlequote", "sq", .single '\''),
   ("wsegspace", "wsegspace", wordSpace), ("zwj", "zwj", zeroWidthJoiner)]

/-! ## Sentences -/

/-- Marks and the joiner. -/
def sentenceExtension : CharSet :=
  graphemeExtend ∪ Category.spacingMark.set ∪ zeroWidthJoiner

/-- Georgian letters, which have no case in running text. -/
def caselessGeorgian : CharSet := .ofRows ["10d0-10fa 10fd-10ff 1c90-1cba 1cbd-1cbf"]

/-- Letters that go on with a sentence. -/
def sentenceLower : CharSet := lowercase \ (graphemeExtend ∪ caselessGeorgian)

/-- Letters that start a sentence. -/
def sentenceUpper : CharSet := (uppercase ∪ Category.titlecaseLetter.set) \ caselessGeorgian

/-- Signs that go with letters in a sentence. -/
def otherSentenceLetter : CharSet := .ofRows ["5f3"]

/-- Letters without case. -/
def sentenceLetter : CharSet :=
  (alphabetic ∪ otherSentenceLetter) \ (sentenceLower ∪ sentenceUpper ∪ sentenceExtension)

/-- Signs that go with digits in a sentence. -/
def otherSentenceNumeric : CharSet := .ofRows ["66b-66c 19da"]

/-- Full stops, which also end abbreviations. -/
def fullStop : CharSet := .ofRows ["2e 2024 fe52 ff0e"]

/-- Line ends that end a paragraph. -/
def separator : CharSet := .ofRows ["85 2028-2029"]

/-- Ornaments that close like quotation marks. -/
def otherClosing : CharSet := .ofRows ["275b-2760 2e00-2e01 2e06-2e08 2e0b 1f676-1f678"]

/-- Full-width quotation marks, which do not close. -/
def plainFullWidthQuote : CharSet := .ofRows ["ff02 ff07"]

/-- Quotation marks, brackets and what closes like them. -/
def closing : CharSet :=
  (quotationMark ∪ otherClosing ∪ ofCategories fun
    | .openPunctuation | .closePunctuation | .initialPunctuation | .finalPunctuation => true
    | _ => false) \ plainFullWidthQuote

/-- Punctuation after which a sentence goes on. -/
def sentenceContinue : CharSet := .ofRows
  ["2c-2d 3a-3b 37e 55d 60c-60d 7f8 1802 1808 2013-2014 3001 fe10-fe11 fe13-fe14 fe31-fe32",
   "fe50-fe51 fe54-fe55 fe58 fe63 ff0c-ff0d ff1a-ff1b ff64"]

def sentenceKinds : List Kind :=
  [("aterm", "at", fullStop), ("cr", "cr", carriageReturn),
   ("close", "cl", closing),
   ("extend", "ex", sentenceExtension),
   ("format", "fo", Category.formatting.set \ (sentenceExtension ∪ numericFormat)),
   ("lf", "lf", lineFeed), ("lower", "lo", sentenceLower),
   ("numeric", "nu", Category.decimalNumber.set ∪ otherSentenceNumeric ∪ numericFormat),
   ("oletter", "le", sentenceLetter), ("scontinue", "sc", sentenceContinue),
   ("sterm", "st", sentenceTerminal \ fullStop), ("sep", "se", separator),
   ("sp", "sp", whiteSpace \ (separator ∪ carriageReturn ∪ lineFeed)),
   ("upper", "up", sentenceUpper)]

end Unicode

end Decorate
