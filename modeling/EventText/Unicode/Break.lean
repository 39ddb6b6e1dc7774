import EventText.Unicode.Emoji
import EventText.Unicode.Grapheme
import EventText.Unicode.Script
import EventText.Unicode.Sign

namespace EventText.Unicode

def carriageReturn : CharSet := .single '\r'

def lineFeed : CharSet := .single '\n'

-- The joiner of zero width.
def joiner : CharSet := ⟨[(0x200D, 0x200D)]⟩

namespace Grapheme

def extend : CharSet := (graphemeExtend ∪ emojiModifier) \ joiner

def control : CharSet :=
  (Unicode.control ∪ format ∪ lineSeparator ∪ paragraphSeparator ∪ (unassigned ∩ defaultIgnorable))
    \ (carriageReturn ∪ lineFeed ∪ joinControl ∪ prependedMark ∪ extend)

-- The consonants that are written before the syllable they belong to.
def leadingConsonant : CharSet := ⟨[
  (0xD4E, 0xD4E), (0x111C2, 0x111C3), (0x113D1, 0x113D1), (0x1193F, 0x1193F), (0x11941, 0x11941),
  (0x11A3A, 0x11A3A), (0x11A84, 0x11A89), (0x11D46, 0x11D46), (0x11F02, 0x11F02)]⟩

def prepend : CharSet := prependedMark ∪ leadingConsonant

def leadingJamo : CharSet := ⟨[(0x1100, 0x115F), (0xA960, 0xA97C)]⟩

def vowelJamo : CharSet := ⟨[(0x1160, 0x11A7), (0xD7B0, 0xD7C6)]⟩

def trailingJamo : CharSet := ⟨[(0x11A8, 0x11FF), (0xD7CB, 0xD7FB)]⟩

def kiratRaiVowel : CharSet := ⟨[(0x16D63, 0x16D63), (0x16D67, 0x16D6A)]⟩

-- The syllables without a trailing consonant: every twenty-eighth.
def openSyllable : CharSet := .ofRuns [(0xAC00, 0xD788, 28)]

def closedSyllable : CharSet := ⟨[(0xAC00, 0xD7A3)]⟩ \ openSyllable

-- The spacing marks that do not belong to the character before them.
def unboundSpacing : CharSet := ⟨[
  (0x102B, 0x102C), (0x1038, 0x1038), (0x1062, 0x1064), (0x1067, 0x106D), (0x1083, 0x1083),
  (0x1087, 0x108C), (0x108F, 0x108F), (0x109A, 0x109C), (0x1A61, 0x1A61), (0x1A63, 0x1A64),
  (0xAA7B, 0xAA7B), (0xAA7D, 0xAA7D), (0x11720, 0x11721)]⟩

def spacing : CharSet :=
  ((spacingMark \ graphemeExtend) ∪ ⟨[(0xE33, 0xE33), (0xEB3, 0xEB3)]⟩) \ unboundSpacing

-- The classes by which a text is split into what its readers take for characters.
def classes : List (List String × CharSet) := [
  (["cr"], carriageReturn),
  (["lf"], lineFeed),
  (["cn", "control"], control),
  (["ex", "extend"], extend),
  (["zwj"], joiner),
  (["ri", "regionalindicator"], regionalIndicator),
  (["pp", "prepend"], prepend),
  (["sm", "spacingmark"], spacing),
  (["l"], leadingJamo),
  (["v"], vowelJamo ∪ kiratRaiVowel),
  (["t"], trailingJamo),
  (["lv"], openSyllable),
  (["lvt"], closedSyllable)]

end Grapheme

-- The marks that belong to the character before them in words and sentences.
def attached : CharSet := graphemeExtend ∪ spacingMark

-- The digits and what may stand among them.
def numeric : CharSet := decimalNumber ∪ ⟨[(0x66B, 0x66C)]⟩ ∪ (prependedMark \ ⟨[(0x70F, 0x70F)]⟩)

namespace Sentence

def separator : CharSet := ⟨[(0x85, 0x85), (0x2028, 0x2029)]⟩

def space : CharSet := whiteSpace \ (separator ∪ carriageReturn ∪ lineFeed)

def extend : CharSet := attached ∪ joiner

def format : CharSet := Unicode.format \ (joinControl ∪ graphemeExtend ∪ numeric)

-- The Georgian letters have no case in a sentence.
def georgian : CharSet := ⟨[(0x10D0, 0x10FA), (0x10FD, 0x10FF)]⟩

def georgianCapital : CharSet := ⟨[(0x1C90, 0x1CBA), (0x1CBD, 0x1CBF)]⟩

def lower : CharSet := lowercase \ (graphemeExtend ∪ georgian)

def upper : CharSet := (titlecaseLetter ∪ uppercase) \ georgianCapital

def otherLetter : CharSet :=
  (alphabetic ∪ ⟨[(0x5F3, 0x5F3)]⟩) \ (lower ∪ upper ∪ extend)

-- The full stops, which may also end an abbreviation.
def fullStop : CharSet := ⟨[(0x2E, 0x2E), (0x2024, 0x2024), (0xFE52, 0xFE52), (0xFF0E, 0xFF0E)]⟩

def terminal : CharSet := sentenceTerminal \ fullStop

-- The signs after which a sentence goes on.
def goesOn : CharSet := ⟨[
  (0x2C, 0x2D), (0x3A, 0x3B), (0x37E, 0x37E), (0x55D, 0x55D), (0x60C, 0x60D), (0x7F8, 0x7F8),
  (0x1802, 0x1802), (0x1808, 0x1808), (0x2013, 0x2014), (0x3001, 0x3001), (0xFE10, 0xFE11),
  (0xFE13, 0xFE14), (0xFE31, 0xFE32), (0xFE50, 0xFE51), (0xFE54, 0xFE55), (0xFE58, 0xFE58),
  (0xFE63, 0xFE63), (0xFF0C, 0xFF0D), (0xFF1A, 0xFF1B), (0xFF64, 0xFF64)]⟩

def otherQuotation : CharSet := ⟨[
  (0x22, 0x22), (0x27, 0x27), (0x275B, 0x2760), (0x2E00, 0x2E01), (0x2E06, 0x2E08),
  (0x2E0B, 0x2E0B), (0x1F676, 0x1F678)]⟩

def close : CharSet := (bracket ∪ otherQuotation) \ (fullStop ∪ terminal)

-- The classes by which a text is split into sentences.
def classes : List (List String × CharSet) := [
  (["cr"], carriageReturn),
  (["lf"], lineFeed),
  (["ex", "extend"], extend),
  (["se", "sep"], separator),
  (["fo", "format"], format),
  (["sp"], space),
  (["lo", "lower"], lower),
  (["up", "upper"], upper),
  (["le", "oletter"], otherLetter),
  (["nu", "numeric"], numeric),
  (["at", "aterm"], fullStop),
  (["sc", "scontinue"], goesOn),
  (["st", "sterm"], terminal),
  (["cl", "close"], close)]

end Sentence

namespace Word

def newline : CharSet := ⟨[(0xB, 0xC), (0x85, 0x85), (0x2028, 0x2029)]⟩

def extend : CharSet := (attached ∪ emojiModifier) \ joiner

def format : CharSet :=
  Unicode.format \ (⟨[(0x200B, 0x200D)]⟩ ∪ Grapheme.prepend ∪ graphemeExtend)

def katakanaSign : CharSet := ⟨[
  (0x3031, 0x3035), (0x309B, 0x309C), (0x30A0, 0x30A0), (0x30FC, 0x30FC), (0xFF70, 0xFF70)]⟩

def katakana : CharSet := Script.katakana ∪ katakanaSign

def hebrewLetter : CharSet := Script.hebrew ∩ otherLetter

-- The signs that do not part a word.
def letterLike : CharSet := ⟨[
  (0x2C2, 0x2C5), (0x2D2, 0x2D7), (0x2DE, 0x2DF), (0x2E5, 0x2EB), (0x2ED, 0x2ED), (0x2EF, 0x2FF),
  (0x55A, 0x55C), (0x55E, 0x55E), (0x58A, 0x58A), (0x5F3, 0x5F3), (0x70F, 0x70F), (0xA708, 0xA716),
  (0xA720, 0xA721), (0xA789, 0xA78A), (0xAB5B, 0xAB5B)]⟩

-- The letters and marks of scripts that are written without spaces.
def unspaced : CharSet := ⟨[
  (0xE01, 0xE3A), (0xE40, 0xE4E), (0xE81, 0xE82), (0xE84, 0xE84), (0xE86, 0xE8A), (0xE8C, 0xEA3),
  (0xEA5, 0xEA5), (0xEA7, 0xEBD), (0xEC0, 0xEC4), (0xEC6, 0xEC6), (0xEC8, 0xECE), (0xEDC, 0xEDF),
  (0x1000, 0x103F), (0x1050, 0x108F), (0x109A, 0x109F), (0x1780, 0x17D3), (0x17D7, 0x17D7),
  (0x17DC, 0x17DD), (0x1950, 0x196D), (0x1970, 0x1974), (0x1980, 0x19AB), (0x19B0, 0x19C9),
  (0x19DA, 0x19DA), (0x19DE, 0x19DF), (0x1A20, 0x1A5E), (0x1A60, 0x1A7C), (0x1AA0, 0x1AAD),
  (0xA9E0, 0xA9EF), (0xA9FA, 0xA9FE), (0xAA60, 0xAAC2), (0xAADB, 0xAADF), (0x11700, 0x1171A),
  (0x1171D, 0x1172B), (0x1173A, 0x1173B), (0x1173F, 0x11746)]⟩

def letter : CharSet :=
  (alphabetic ∪ letterLike)
    \ (ideographic ∪ katakana ∪ unspaced ∪ Script.hiragana ∪ extend ∪ hebrewLetter)

-- The signs that may stand inside words, inside numbers, or inside both.
def insideLetters : CharSet := ⟨[
  (0x3A, 0x3A), (0xB7, 0xB7), (0x387, 0x387), (0x55F, 0x55F), (0x5F4, 0x5F4), (0x2027, 0x2027),
  (0xFE13, 0xFE13), (0xFE55, 0xFE55), (0xFF1A, 0xFF1A)]⟩

def insideDigits : CharSet := ⟨[
  (0x2C, 0x2C), (0x3B, 0x3B), (0x37E, 0x37E), (0x589, 0x589), (0x60C, 0x60D), (0x66C, 0x66C),
  (0x7F8, 0x7F8), (0x2044, 0x2044), (0xFE10, 0xFE10), (0xFE14, 0xFE14), (0xFE50, 0xFE50),
  (0xFE54, 0xFE54), (0xFF0C, 0xFF0C), (0xFF1B, 0xFF1B)]⟩

def insideBoth : CharSet := ⟨[
  (0x2E, 0x2E), (0x2018, 0x2019), (0x2024, 0x2024), (0xFE52, 0xFE52), (0xFF07, 0xFF07),
  (0xFF0E, 0xFF0E)]⟩

def connector : CharSet := connectorPunctuation ∪ ⟨[(0x202F, 0x202F)]⟩

def space : CharSet := spaceSeparator \ ⟨[(0xA0, 0xA0), (0x2007, 0x2007), (0x202F, 0x202F)]⟩

-- The classes by which a text is split into words.
def classes : List (List String × CharSet) := [
  (["cr"], carriageReturn),
  (["lf"], lineFeed),
  (["nl", "newline"], newline),
  (["extend"], extend),
  (["zwj"], joiner),
  (["ri", "regionalindicator"], regionalIndicator),
  (["fo", "format"], format),
  (["ka", "katakana"], katakana),
  (["hl", "hebrewletter"], hebrewLetter),
  (["le", "aletter"], letter),
  (["sq", "singlequote"], .single '\''),
  (["dq", "doublequote"], .single '"'),
  (["mb", "midnumlet"], insideBoth),
  (["ml", "midletter"], insideLetters),
  (["mn", "midnum"], insideDigits),
  (["nu", "numeric"], numeric \ ⟨[(0x66C, 0x66C)]⟩),
  (["ex", "extendnumlet"], connector),
  (["wsegspace"], space)]

end Word

end EventText.Unicode
