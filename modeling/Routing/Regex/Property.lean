/-
# Character properties

The properties that an expression names by `\p`: the properties that hold or not, the
general categories and the scripts by one word, and these and some others by a
property with a value.  Spaces, `_`, `-` and case of a name do not count, and neither
does an `is` at its front.

Only the members in ASCII are listed, for the reason that `Regex.CharSet` gives; the
names are those of Unicode 17.
-/

import Routing.Regex.CharSet

namespace Routing
namespace Regex
namespace Property

/-- Names, with blanks between them, and the members in ASCII of the set that each
of them names. -/
abbrev Table := List (String × CharSet)

/-- The set that a table has under a name. -/
def Table.find? (table : Table) (name : Text) : Option CharSet :=
  table.findSome? fun (names, set) =>
    if (Text.words names.toList).contains name then some set else none

/-- The letters and digits of a name, in lower case. -/
def plain (name : Text) : Text :=
  (name.filter fun c => c.toNat < 128 && !" _-".toList.contains c).map Char.toLower

/-- A name without what does not count in it.  The name `isc` keeps its `is`, without
which it would be the name of a category. -/
def normalize (name : Text) : Text :=
  match name with
  | i :: s :: rest =>
    if i.toLower = 'i' ∧ s.toLower = 's' then
      if plain rest = ['c'] then "isc".toList else plain rest
    else plain name
  | _ => plain name

/-- The digits to base 16. -/
def hexadecimal : CharSet :=
  CharSet.union CharSet.digit (CharSet.union (CharSet.range 'a' 'f') (CharSet.range 'A' 'F'))

/-- The properties that hold or not. -/
def binary : Table :=
  [("alphabetic alpha cased changeswhencasemapped cwcm idstart ids xidstart xids", CharSet.alpha),
    ("lowercase lower changeswhentitlecased cwt changeswhenuppercased cwu", CharSet.lower),
    ("uppercase upper changeswhencasefolded cwcf changeswhenlowercased cwl", CharSet.upper),
    ("whitespace wspace space patternwhitespace patws", CharSet.space),
    ("idcontinue idc xidcontinue xidc", CharSet.word),
    ("hexdigit hex asciihexdigit ahex", hexadecimal),
    ("bidimirrored bidim", CharSet.ofList "()<>[]\x7b\x7d".toList),
    ("caseignorable ci", CharSet.ofList "'.:^\x60".toList), ("dash", CharSet.one '-'),
    ("diacritic dia", CharSet.ofList "^\x60".toList),
    ("emoji emojicomponent ecomp", CharSet.union CharSet.digit (CharSet.ofList "#*".toList)),
    ("graphemebase grbase", CharSet.range ' ' '~'), ("math", CharSet.ofList "+<=>^|~".toList),
    ("patternsyntax patsyn", CharSet.diff CharSet.graph CharSet.word),
    ("quotationmark qmark", CharSet.ofList "\"'".toList),
    ("sentenceterminal sterm", CharSet.ofList "!.?".toList),
    ("softdotted sd", CharSet.ofList "ij".toList),
    ("terminalpunctuation term", CharSet.ofList "!,.:;?".toList),
    ("bidicontrol bidic defaultignorablecodepoint di deprecated dep emojimodifier emod
      emojimodifierbase ebase emojipresentation epres extendedpictographic extpict extender ext
      graphemeextend grext graphemelink grlink idsbinaryoperator idsb idstrinaryoperator idst
      idsunaryoperator idsu idcompatmathcontinue idcompatmathstart ideographic ideo joincontrol
      joinc logicalorderexception loe modifiercombiningmark mcm noncharactercodepoint nchar
      prependedconcatenationmark pcm radical regionalindicator ri unifiedideograph uideo
      variationselector vs", CharSet.empty)]

/-- The general categories. -/
def categories : Table :=
  [("l letter lc casedletter", CharSet.alpha), ("lu uppercaseletter", CharSet.upper),
    ("ll lowercaseletter", CharSet.lower), ("n number nd decimalnumber digit", CharSet.digit),
    ("p punctuation punct", CharSet.ofList "!\"#%&'()*,-./:;?@[\\]_\x7b\x7d".toList),
    ("pc connectorpunctuation", CharSet.one '_'), ("pd dashpunctuation", CharSet.one '-'),
    ("ps openpunctuation", CharSet.ofList "([\x7b".toList),
    ("pe closepunctuation", CharSet.ofList ")]\x7d".toList),
    ("po otherpunctuation", CharSet.ofList "!\"#%&'*,./:;?@\\".toList),
    ("s symbol", CharSet.ofList "$+<=>^\x60|~".toList),
    ("sm mathsymbol", CharSet.ofList "+<=>|~".toList), ("sc currencysymbol", CharSet.one '$'),
    ("sk modifiersymbol", CharSet.ofList "^\x60".toList),
    ("z separator zs spaceseparator", CharSet.one ' '),
    ("c other cc control cntrl", CharSet.control), ("any assigned ascii", CharSet.ascii),
    ("lt titlecaseletter lm modifierletter lo otherletter m mark combiningmark mn nonspacingmark
      mc spacingmark me enclosingmark nl letternumber no othernumber pi initialpunctuation pf
      finalpunctuation so othersymbol zl lineseparator zp paragraphseparator cf format co
      privateuse cn unassigned", CharSet.empty)]

/-- The scripts. -/
def scripts : Table :=
  [("latin latn", CharSet.alpha), ("common zyyy", CharSet.diff CharSet.ascii CharSet.alpha),
    ("
      adlam adlm ahom anatolianhieroglyphs hluw arabic arab armenian armn avestan avst balinese
      bali bamum bamu bassavah bass batak batk bengali beng beriaerfe berf bhaiksuki bhks bopomofo
      bopo brahmi brah braille brai buginese bugi buhid buhd canadianaboriginal cans carian cari
      caucasianalbanian aghb chakma cakm cham cherokee cher chorasmian chrs coptic copt qaac
      cuneiform xsux cypriot cprt cyprominoan cpmn cyrillic cyrl deseret dsrt devanagari deva
      divesakuru diak dogra dogr duployan dupl egyptianhieroglyphs egyp elbasan elba elymaic elym
      ethiopic ethi garay gara georgian geor glagolitic glag gothic goth grantha gran greek grek
      gujarati gujr gunjalagondi gong gurmukhi guru gurungkhema gukh han hani hangul hang
      hanifirohingya rohg hanunoo hano hatran hatr hebrew hebr hiragana hira imperialaramaic armi
      inherited qaai zinh inscriptionalpahlavi phli inscriptionalparthian prti javanese java
      kaithi kthi kannada knda katakana kana kawi kayahli kali kharoshthi khar khitansmallscript
      kits khmer khmr khojki khoj khudawadi sind kiratrai krai lao laoo lepcha lepc limbu limb
      lineara lina linearb linb lisu lycian lyci lydian lydi mahajani mahj makasar maka malayalam
      mlym mandaic mand manichaean mani marchen marc masaramgondi gonm medefaidrin medf
      meeteimayek mtei mendekikakui mend meroiticcursive merc meroitichieroglyphs mero miao plrd
      modi mongolian mong mro mroo multani mult myanmar mymr nabataean nbat nagmundari nagm
      nandinagari nand newa newtailue talu nko nkoo nushu nshu nyiakengpuachuehmong hmnp ogham
      ogam olchiki olck oldhungarian hung olditalic ital oldnortharabian narb oldpermic perm
      oldpersian xpeo oldsogdian sogo oldsoutharabian sarb oldturkic orkh olduyghur ougr olonal
      onao oriya orya osage osge osmanya osma pahawhhmong hmng palmyrene palm paucinhau pauc
      phagspa phag phoenician phnx psalterpahlavi phlp rejang rjng runic runr samaritan samr
      saurashtra saur sharada shrd shavian shaw siddham sidd sidetic sidt signwriting sgnw sinhala
      sinh sogdian sogd sorasompeng sora soyombo soyo sundanese sund sunuwar sunu sylotinagri sylo
      syriac syrc tagalog tglg tagbanwa tagb taile tale taitham lana taiviet tavt taiyo tayo takri
      takr tamil taml tangsa tnsa tangut tang telugu telu thaana thaa thai tibetan tibt tifinagh
      tfng tirhuta tirh todhri todr tolongsiki tols toto tulutigalari tutg ugaritic ugar vai vaii
      vithkuqi vith wancho wcho warangciti wara yezidi yezi yi yiii zanabazarsquare zanb",
      CharSet.empty)]

/-- The versions of Unicode: a character belongs to every version since its own. -/
def ages : Table :=
  [("1.1 v11 2.0 v20 2.1 v21 3.0 v30 3.1 v31 3.2 v32 4.0 v40 4.1 v41 5.0 v50 5.1 v51 5.2 v52
      6.0 v60 6.1 v61 6.2 v62 6.3 v63 7.0 v70 8.0 v80 9.0 v90 10.0 v100 11.0 v110 12.0 v120
      12.1 v121 13.0 v130 14.0 v140 15.0 v150 15.1 v151 16.0 v160 17.0 v170", CharSet.ascii)]

/-- The ends of a line. -/
def lineEnds : Table := [("cr", CharSet.one '\r'), ("lf", CharSet.one '\n')]

/-- How characters come together in what a reader takes for one. -/
def graphemeBreaks : Table :=
  lineEnds ++
  [("control cn", CharSet.diff CharSet.control (CharSet.ofList "\r\n".toList)),
    ("extend ex l lv lvt prepend pp regionalindicator ri spacingmark sm t v zwj", CharSet.empty)]

/-- How characters come together in words. -/
def wordBreaks : Table :=
  lineEnds ++
  [("aletter le", CharSet.alpha), ("doublequote dq", CharSet.one '"'),
    ("extendnumlet ex", CharSet.one '_'), ("midletter ml", CharSet.one ':'),
    ("midnum mn", CharSet.ofList ",;".toList), ("midnumlet mb", CharSet.one '.'),
    ("newline nl", CharSet.ofList "\x0B\x0C".toList), ("numeric nu", CharSet.digit),
    ("singlequote sq", CharSet.one '\''), ("wsegspace", CharSet.one ' '),
    ("extend format fo hebrewletter hl katakana ka regionalindicator ri zwj", CharSet.empty)]

/-- How characters come together in sentences. -/
def sentenceBreaks : Table :=
  lineEnds ++
  [("aterm at", CharSet.one '.'), ("close cl", CharSet.ofList "\"'()[]\x7b\x7d".toList),
    ("lower lo", CharSet.lower), ("numeric nu", CharSet.digit),
    ("scontinue sc", CharSet.ofList ",-:;".toList), ("sterm st", CharSet.ofList "!?".toList),
    ("sp", CharSet.ofList "\t\x0B\x0C ".toList), ("upper up", CharSet.upper),
    ("extend ex format fo oletter le sep se", CharSet.empty)]

/-- The properties that have values, each with its values. -/
def valued : List (String × Table) :=
  [("generalcategory gc", categories), ("script sc", scripts),
    ("scriptextensions scx", scripts), ("age", ages),
    ("graphemeclusterbreak gcb", graphemeBreaks), ("wordbreak wb", wordBreaks),
    ("sentencebreak sb", sentenceBreaks)]

/-- The set of a property that is named by one word. -/
def ofName? (name : Text) : Option CharSet :=
  Table.find? (binary ++ categories ++ scripts) (normalize name)

/-- The set of the characters that have a value for a property. -/
def ofValue? (property value : Text) : Option CharSet :=
  valued.findSome? fun (names, table) =>
    if (Text.words names.toList).contains (normalize property) then table.find? (normalize value)
    else none

/-- The set that the text between the braces of `\p` names: a word, or a
property and its value with `=`, `:` or `!=` between them. -/
def read? (name : Text) : Option CharSet :=
  match Text.cutAt '!' name with
  | (property, some ('=' :: value)) => (ofValue? property value).map CharSet.compl
  | _ =>
    match Text.cutAt ':' name with
    | (property, some value) => ofValue? property value
    | _ =>
      match Text.cutAt '=' name with
      | (property, some value) => ofValue? property value
      | _ => ofName? name

end Property
end Regex
end Routing
