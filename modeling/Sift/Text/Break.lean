import Sift.Text.BinaryProperty
import Sift.Text.Script

/-!
# Break classes

Where a text can be parted is decided by classes of characters: of grapheme clusters, of words and
of sentences.  A class is listed under the names that a pattern may give it, as of version 16.0 of
the character set; names are in lower case with blanks, hyphens and low lines left out.
-/

set_option autoImplicit false
namespace Sift
namespace Text

namespace BreakClass

open Category BinaryProperty

/-! ## Sets that several classes rest on -/

/-- The skin tones that change the emoji before them. -/
def emojiModifiers : CodeSet := .range 0x1F3FB 0x1F3FF

/-- The letters that stand for a flag in pairs. -/
def regionalIndicators : CodeSet := .range 0x1F1E6 0x1F1FF

/-- The sign that joins what stands on its two sides. -/
def zeroWidthJoiner : CodeSet := .range 0x200D 0x200D

/-- The class of the carriage return, in every list. -/
def carriageReturn : NamedSet := ⟨["cr"], .single '\r'⟩

/-- The class of the line feed, in every list. -/
def lineFeed : NamedSet := ⟨["lf"], .single '\n'⟩

/-- The code points of a script, by its name. -/
def scriptCodes (name : String) : CodeSet :=
  (Script.ofName? name).elim .empty Script.codes

/-- The ideographs, which are words by themselves. -/
def ideographs : CodeSet :=
  (BinaryProperty.codes? "ideographic").getD .empty

/-- Format characters that count as letters or digits instead. -/
def prependedMarks : CodeSet := .ofTable "600-605 6DD 70F 890-891 8E2 110BD 110CD"

/-! ## Grapheme clusters -/

/-- The consonants that begin a Hangul syllable. -/
def leadingJamo : CodeSet := .ofTable "1100-115F A960-A97C"

/-- The vowels of a Hangul syllable, and two signs that behave like them. -/
def vowelJamo : CodeSet := .ofTable "1160-11A7 D7B0-D7C6 16D63 16D67-16D6A"

/-- The consonants that end a Hangul syllable. -/
def trailingJamo : CodeSet := .ofTable "11A8-11FF D7CB-D7FB"

/-- Hangul syllables without a final consonant: the first of every 28. -/
def openSyllables : CodeSet :=
  ⟨(List.range 399).map fun i ↦ (0xAC00 + 28 * i, 0xAC00 + 28 * i)⟩

/-- Spacing marks that do not attach to the letter before them. -/
def detachedMarks : CodeSet := .ofTable
  "102B-102C 1038 1062-1064 1067-106D 1083 1087-108C 108F 109A-109C 1A61 1A63-1A64 AA7B AA7D
   11720-11721"

/-- What is a cluster by itself: controls, formats and unassigned code points that show nothing. -/
def graphemeControl : CodeSet :=
  (codesOf [.lineSeparator, .paragraphSeparator, .control, .format] ∪
    defaultIgnorable.diff assignedCodes).diff
      (prependedMarks ∪ graphemeExtending ∪ .ofTable "A D 200C-200D")

/-- The classes of grapheme clusters. -/
def graphemeClasses : List NamedSet :=
  [carriageReturn,
   lineFeed,
   ⟨["control", "cn"], graphemeControl⟩,
   ⟨["extend", "ex"], known graphemeExtending ∪ emojiModifiers⟩,
   ⟨["prepend", "pp"],
    prependedMarks ∪ .ofTable "D4E 111C2-111C3 113D1 1193F 11941 11A3A 11A84-11A89 11D46 11F02"⟩,
   ⟨["spacingmark", "sm"],
    (known (Category.codes .spacingMark)).diff (graphemeExtending ∪ detachedMarks) ∪
      .ofTable "E33 EB3"⟩,
   ⟨["regionalindicator", "ri"], regionalIndicators⟩,
   ⟨["zwj"], zeroWidthJoiner⟩,
   ⟨["l"], leadingJamo⟩,
   ⟨["v"], vowelJamo⟩,
   ⟨["t"], trailingJamo⟩,
   ⟨["lv"], openSyllables⟩,
   ⟨["lvt"], (CodeSet.range 0xAC00 0xD7A3).diff openSyllables⟩]

/-! ## Words -/

/-- Katakana, with signs that are shared with other scripts. -/
def katakana : CodeSet :=
  scriptCodes "katakana" ∪ .ofTable "3031-3035 309B-309C 30A0 30FC FF70"

/-- Letters of scripts that write words without blanks between them. -/
def unspacedLetters : CodeSet := .ofTable
  "E01-E3A E40-E4E E81-E82 E84 E86-E8A E8C-EA3 EA5 EA7-EBD EC0-EC4 EC6 EC8-ECE EDC-EDF 1000-103F
   1050-108F 109A-109F 1780-17D3 17D7 17DC-17DD 1950-196D 1970-1974 1980-19AB 19B0-19C9 19DA
   19DE-19DF 1A20-1A5E 1A60-1A7C 1AA0-1AAD A9E0-A9EF A9FA-A9FE AA60-AAC2 AADB-AADF 11700-1171A
   1171D-1172B 1173A-1173B 1173F-11746"

/-- What belongs to the character before it, whatever that is. -/
def wordExtend : CodeSet :=
  (known (graphemeExtending ∪ Category.codes .spacingMark) ∪ emojiModifiers).diff zeroWidthJoiner

/-- The Hebrew letters, which a quote may stand between. -/
def hebrewLetter : CodeSet :=
  (scriptCodes "hebrew").inter (Category.codes .otherLetter)

/-- Letters of words, among them some signs that are written like letters. -/
def wordLetter : CodeSet :=
  (known alphabetic ∪ .ofTable
    "2C2-2C5 2D2-2D7 2DE-2DF 2E5-2EB 2ED 2EF-2FF 55A-55C 55E 58A 5F3 70F A708-A716 A720-A721
     A789-A78A AB5B").diff
      (CodeSet.unions [ideographs, katakana, scriptCodes "hiragana", unspacedLetters, wordExtend,
        hebrewLetter])

/-- Digits, the decimal separator of Arabic, and marks that stand before a number. -/
def digits : CodeSet :=
  known (Category.codes .decimalNumber) ∪ .ofTable "600-605 66B 6DD 890-891 8E2 110BD 110CD"

/-- The classes of words. -/
def wordClasses : List NamedSet :=
  [carriageReturn,
   lineFeed,
   ⟨["newline", "nl"], .ofTable "B-C 85 2028-2029"⟩,
   ⟨["extend"], wordExtend⟩,
   ⟨["zwj"], zeroWidthJoiner⟩,
   ⟨["format", "fo"],
    (known (Category.codes .format)).diff
      (prependedMarks ∪ .ofTable "200B-200D E0020-E007F")⟩,
   ⟨["regionalindicator", "ri"], regionalIndicators⟩,
   ⟨["katakana", "ka"], katakana⟩,
   ⟨["hebrewletter", "hl"], hebrewLetter⟩,
   ⟨["aletter", "le"], wordLetter⟩,
   ⟨["singlequote", "sq"], .range 0x27 0x27⟩,
   ⟨["doublequote", "dq"], .single '"'⟩,
   ⟨["midnumlet", "mb"], .ofTable "2E 2018-2019 2024 FE52 FF07 FF0E"⟩,
   ⟨["midletter", "ml"], .ofTable "3A B7 387 55F 5F4 2027 FE13 FE55 FF1A"⟩,
   ⟨["midnum", "mn"], .ofTable "2C 3B 37E 589 60C-60D 66C 7F8 2044 FE10 FE14 FE50 FE54 FF0C FF1B"⟩,
   ⟨["numeric", "nu"], digits⟩,
   ⟨["extendnumlet", "ex"], .ofTable "5F 202F 203F-2040 2054 FE33-FE34 FE4D-FE4F FF3F"⟩,
   ⟨["wsegspace"], .ofTable "20 1680 2000-2006 2008-200A 205F 3000"⟩]

/-! ## Sentences -/

/-- What belongs to the character before it, the joiner included. -/
def sentenceExtend : CodeSet :=
  known (graphemeExtending ∪ Category.codes .spacingMark) ∪ zeroWidthJoiner

/-- Georgian letters, whose two cases part no sentences. -/
def caseless : CodeSet := .ofTable "10D0-10FA 10FD-10FF 1C90-1CBA 1CBD-1CBF"

/-- Letters that may begin a sentence: upper case and title case. -/
def sentenceUpper : CodeSet :=
  (known (uppercase ∪ Category.codes .titlecaseLetter)).diff caseless

/-- Letters that show that a sentence goes on: lower case. -/
def sentenceLower : CodeSet :=
  (known lowercase).diff (graphemeExtending ∪ caseless)

/-- Letters that are neither. -/
def sentenceLetter : CodeSet :=
  (known alphabetic ∪ .ofTable "5F3").diff (sentenceUpper ∪ sentenceLower ∪ sentenceExtend)

/-- Marks that end a sentence but for those that may also stand within one. -/
def sentenceEnd : CodeSet := .ofTable
  "21 3F 589 61D-61F 6D4 700-702 7F9 837 839 83D-83E 964-965 104A-104B 1362 1367-1368 166E
   1735-1736 17D4-17D5 1803 1809 1944-1945 1AA8-1AAB 1B4E-1B4F 1B5A-1B5B 1B5E-1B5F 1B7D-1B7F
   1C3B-1C3C 1C7E-1C7F 203C-203D 2047-2049 2CF9-2CFB 2E2E 2E3C 2E53-2E54 3002 A4FF A60E-A60F A6F3
   A6F7 A876-A877 A8CE-A8CF A92F A9C8-A9C9 AA5D-AA5F AAF0-AAF1 ABEB FE12 FE15-FE16 FE56-FE57 FF01
   FF1F FF61 10A56-10A57 10F55-10F59 10F86-10F89 11047-11048 110BE-110C1 11141-11143 111C5-111C6
   111CD 111DE-111DF 11238-11239 1123B-1123C 112A9 113D4-113D5 1144B-1144C 115C2-115C3 115C9-115D7
   11641-11642 1173C-1173E 11944 11946 11A42-11A43 11A9B-11A9C 11C41-11C42 11EF7-11EF8 11F43-11F44
   16A6E-16A6F 16AF5 16B37-16B38 16B44 16D6E-16D6F 16E98 1BC9F 1DA88"

/-- The classes of sentences. -/
def sentenceClasses : List NamedSet :=
  [carriageReturn,
   lineFeed,
   ⟨["sep", "se"], .ofTable "85 2028-2029"⟩,
   ⟨["extend", "ex"], sentenceExtend⟩,
   ⟨["format", "fo"],
    (known (Category.codes .format)).diff
      (prependedMarks.diff (.single '\u070f') ∪ .ofTable "200C-200D E0020-E007F")⟩,
   ⟨["sp"], whiteSpace.diff (.ofTable "A D 85 2028-2029")⟩,
   ⟨["lower", "lo"], sentenceLower⟩,
   ⟨["upper", "up"], sentenceUpper⟩,
   ⟨["oletter", "le"], sentenceLetter⟩,
   ⟨["numeric", "nu"], digits⟩,
   ⟨["aterm", "at"], .ofTable "2E 2024 FE52 FF0E"⟩,
   ⟨["scontinue", "sc"],
    .ofTable "2C-2D 3A-3B 37E 55D 60C-60D 7F8 1802 1808 2013-2014 3001 FE10-FE11 FE13-FE14
              FE31-FE32 FE50-FE51 FE54-FE55 FE58 FE63 FF0C-FF0D FF1A-FF1B FF64"⟩,
   ⟨["sterm", "st"], sentenceEnd⟩,
   ⟨["close", "cl"],
    known (codesOf [.openPunctuation, .closePunctuation, .initialPunctuation,
      .finalPunctuation]) ∪ .ofTable "22 27 275B-2760 2E00-2E01 2E06-2E08 2E0B 1F676-1F678"⟩]

end BreakClass
end Text
end Sift
