import EventText.Unicode.Break
import EventText.Unicode.CaseChange
import EventText.Unicode.Diacritic

namespace EventText.Unicode

def patternSyntax : CharSet := ⟨[
  (0x21, 0x2F), (0x3A, 0x40), (0x5B, 0x5E), (0x60, 0x60), (0x7B, 0x7E), (0xA1, 0xA7), (0xA9, 0xA9),
  (0xAB, 0xAC), (0xAE, 0xAE), (0xB0, 0xB1), (0xB6, 0xB6), (0xBB, 0xBB), (0xBF, 0xBF), (0xD7, 0xD7),
  (0xF7, 0xF7), (0x2010, 0x2027), (0x2030, 0x203E), (0x2041, 0x2053), (0x2055, 0x205E),
  (0x2190, 0x245F), (0x2500, 0x2775), (0x2794, 0x2BFF), (0x2E00, 0x2E7F), (0x3001, 0x3003),
  (0x3008, 0x3020), (0x3030, 0x3030), (0xFD3E, 0xFD3F), (0xFE45, 0xFE46)]⟩

def patternWhiteSpace : CharSet := ⟨[
  (0x9, 0xD), (0x20, 0x20), (0x85, 0x85), (0x200E, 0x200F), (0x2028, 0x2029)]⟩

def otherIdStart : CharSet := ⟨[
  (0x1885, 0x1886), (0x2118, 0x2118), (0x212E, 0x212E), (0x309B, 0x309C)]⟩

def otherIdContinue : CharSet := ⟨[
  (0xB7, 0xB7), (0x387, 0x387), (0x1369, 0x1371), (0x19DA, 0x19DA), (0x200C, 0x200D),
  (0x30FB, 0x30FB), (0xFF65, 0xFF65)]⟩

def idStart : CharSet :=
  (letter ∪ letterNumber ∪ otherIdStart) \ (patternSyntax ∪ patternWhiteSpace)

def idContinue : CharSet :=
  idStart ∪ ((nonspacingMark ∪ spacingMark ∪ decimalNumber ∪ connectorPunctuation
    ∪ otherIdContinue) \ (patternSyntax ∪ patternWhiteSpace))

-- The characters of identifiers that normalization takes out of them.
def unstableContinue : CharSet := ⟨[
  (0x37A, 0x37A), (0x309B, 0x309C), (0xFC5E, 0xFC63), (0xFDFA, 0xFDFB), (0xFE70, 0xFE70),
  (0xFE72, 0xFE72), (0xFE74, 0xFE74), (0xFE76, 0xFE76), (0xFE78, 0xFE78), (0xFE7A, 0xFE7A),
  (0xFE7C, 0xFE7C), (0xFE7E, 0xFE7E)]⟩

-- The characters that normalization takes from the start of an identifier.
def unstableStart : CharSet := ⟨[(0xE33, 0xE33), (0xEB3, 0xEB3), (0xFF9E, 0xFF9F)]⟩

def xidStart : CharSet := idStart \ (unstableContinue ∪ unstableStart)

def xidContinue : CharSet := idContinue \ unstableContinue

-- The characters that do not count where the case of the letters around them is looked at.
def caseIgnorable : CharSet :=
  nonspacingMark ∪ enclosingMark ∪ format ∪ modifierLetter ∪ modifierSymbol
    ∪ Word.insideLetters ∪ Word.insideBoth ∪ .single '\''

-- The properties that a character has or has not, each with its names.
def properties : List (List String × CharSet) := [
  (["asciihexdigit", "ahex"], asciiHexDigit),
  (["alphabetic", "alpha"], alphabetic),
  (["bidicontrol", "bidic"], bidiControl),
  (["bidimirrored", "bidim"], bidiMirrored),
  (["caseignorable", "ci"], caseIgnorable),
  (["cased"], cased),
  (["changeswhencasefolded", "cwcf"], changesWhenCasefolded),
  (["changeswhencasemapped", "cwcm"], changesWhenCasemapped),
  (["changeswhenlowercased", "cwl"], changesWhenLowercased),
  (["changeswhentitlecased", "cwt"], changesWhenTitlecased),
  (["changeswhenuppercased", "cwu"], changesWhenUppercased),
  (["dash"], dash),
  (["defaultignorablecodepoint", "di"], defaultIgnorable),
  (["deprecated", "dep"], deprecated),
  (["diacritic", "dia"], diacritic),
  (["emoji"], emoji),
  (["emojicomponent", "ecomp"], emojiComponent),
  (["emojimodifier", "emod"], emojiModifier),
  (["emojimodifierbase", "ebase"], emojiModifierBase),
  (["emojipresentation", "epres"], emojiPresentation),
  (["extendedpictographic", "extpict"], extendedPictographic),
  (["extender", "ext"], extender),
  (["graphemebase", "grbase"], graphemeBase),
  (["graphemeextend", "grext"], graphemeExtend),
  (["graphemelink", "grlink"], graphemeLink),
  (["hexdigit", "hex"], hexDigit),
  (["hyphen"], hyphen),
  (["idsbinaryoperator", "idsb"], idsBinaryOperator),
  (["idstrinaryoperator", "idst"], idsTrinaryOperator),
  (["idsunaryoperator", "idsu"], idsUnaryOperator),
  (["idcompatmathcontinue"], mathIdContinue),
  (["idcompatmathstart"], mathIdStart),
  (["idcontinue", "idc"], idContinue),
  (["idstart", "ids"], idStart),
  (["ideographic", "ideo"], ideographic),
  (["joincontrol", "joinc"], joinControl),
  (["logicalorderexception", "loe"], logicalOrderException),
  (["lowercase", "lower"], lowercase),
  (["math"], math),
  (["modifiercombiningmark", "mcm"], modifierCombiningMark),
  (["noncharactercodepoint", "nchar"], noncharacter),
  (["otheralphabetic", "oalpha"], otherAlphabetic),
  (["otherdefaultignorablecodepoint", "odi"], otherDefaultIgnorable),
  (["othergraphemeextend", "ogrext"], otherGraphemeExtend),
  (["otheridcontinue", "oidc"], otherIdContinue),
  (["otheridstart", "oids"], otherIdStart),
  (["otherlowercase", "olower"], otherLowercase),
  (["othermath", "omath"], otherMath),
  (["otheruppercase", "oupper"], otherUppercase),
  (["patternsyntax", "patsyn"], patternSyntax),
  (["patternwhitespace", "patws"], patternWhiteSpace),
  (["prependedconcatenationmark", "pcm"], prependedMark),
  (["quotationmark", "qmark"], quotationMark),
  (["radical"], radical),
  (["regionalindicator", "ri"], regionalIndicator),
  (["sentenceterminal", "sterm"], sentenceTerminal),
  (["softdotted", "sd"], softDotted),
  (["terminalpunctuation", "term"], terminalPunctuation),
  (["unifiedideograph", "uideo"], unifiedIdeograph),
  (["uppercase", "upper"], uppercase),
  (["variationselector", "vs"], variationSelector),
  (["whitespace", "wspace", "space"], whiteSpace),
  (["xidcontinue", "xidc"], xidContinue),
  (["xidstart", "xids"], xidStart)]

end EventText.Unicode
