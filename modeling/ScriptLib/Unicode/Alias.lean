/-!
# Names of properties and values

The names by which patterns refer to Unicode properties and their values, as Unicode 16.0
defines them: each entry lists the long name first and then the other names. A name in a
pattern selects the entry one of whose names it equals once both are normalized.

Every property has a name here, also those that patterns cannot use, so that a pattern
naming one of them is told that the property exists but has no such value, or that it
cannot be used alone, rather than that it is unknown.
-/

namespace ScriptLib

namespace Unicode

/-- The properties of Unicode 16.0. -/
def propertyAliases : List (List String) :=
  [["kAccountingNumeric", "cjkAccountingNumeric"],
   ["kOtherNumeric", "cjkOtherNumeric"],
   ["kPrimaryNumeric", "cjkPrimaryNumeric"],
   ["Numeric_Value", "nv"],
   ["Bidi_Mirroring_Glyph", "bmg"],
   ["Bidi_Paired_Bracket", "bpb"],
   ["Case_Folding", "cf"],
   ["kCompatibilityVariant", "cjkCompatibilityVariant"],
   ["Decomposition_Mapping", "dm"],
   ["Equivalent_Unified_Ideograph", "EqUIdeo"],
   ["FC_NFKC_Closure", "FC_NFKC"],
   ["Lowercase_Mapping", "lc"],
   ["NFKC_Casefold", "NFKC_CF"],
   ["NFKC_Simple_Casefold", "NFKC_SCF"],
   ["Simple_Case_Folding", "scf", "sfc"],
   ["Simple_Lowercase_Mapping", "slc"],
   ["Simple_Titlecase_Mapping", "stc"],
   ["Simple_Uppercase_Mapping", "suc"],
   ["Titlecase_Mapping", "tc"],
   ["Uppercase_Mapping", "uc"],
   ["kIICore", "cjkIICore"],
   ["kIRG_GSource", "cjkIRG_GSource"],
   ["kIRG_HSource", "cjkIRG_HSource"],
   ["kIRG_JSource", "cjkIRG_JSource"],
   ["kIRG_KPSource", "cjkIRG_KPSource"],
   ["kIRG_KSource", "cjkIRG_KSource"],
   ["kIRG_MSource", "cjkIRG_MSource"],
   ["kIRG_SSource", "cjkIRG_SSource"],
   ["kIRG_TSource", "cjkIRG_TSource"],
   ["kIRG_UKSource", "cjkIRG_UKSource"],
   ["kIRG_USource", "cjkIRG_USource"],
   ["kIRG_VSource", "cjkIRG_VSource"],
   ["kRSUnicode", "cjkRSUnicode", "Unicode_Radical_Stroke", "URS"],
   ["ISO_Comment", "isc"],
   ["Jamo_Short_Name", "JSN"],
   ["kEH_Cat"],
   ["kEH_Desc"],
   ["kEH_HG"],
   ["kEH_IFAO"],
   ["kEH_JSesh"],
   ["Name", "na"],
   ["Unicode_1_Name", "na1"],
   ["Name_Alias"],
   ["Script_Extensions", "scx"],
   ["Age", "age"],
   ["Block", "blk"],
   ["Script", "sc"],
   ["Bidi_Class", "bc"],
   ["Bidi_Paired_Bracket_Type", "bpt"],
   ["Canonical_Combining_Class", "ccc"],
   ["Decomposition_Type", "dt"],
   ["East_Asian_Width", "ea"],
   ["General_Category", "gc"],
   ["Grapheme_Cluster_Break", "GCB"],
   ["Hangul_Syllable_Type", "hst"],
   ["Indic_Conjunct_Break", "InCB"],
   ["Indic_Positional_Category", "InPC"],
   ["Indic_Syllabic_Category", "InSC"],
   ["Joining_Group", "jg"],
   ["Joining_Type", "jt"],
   ["Line_Break", "lb"],
   ["NFC_Quick_Check", "NFC_QC"],
   ["NFD_Quick_Check", "NFD_QC"],
   ["NFKC_Quick_Check", "NFKC_QC"],
   ["NFKD_Quick_Check", "NFKD_QC"],
   ["Numeric_Type", "nt"],
   ["Sentence_Break", "SB"],
   ["Vertical_Orientation", "vo"],
   ["Word_Break", "WB"],
   ["ASCII_Hex_Digit", "AHex"],
   ["Alphabetic", "Alpha"],
   ["Bidi_Control", "Bidi_C"],
   ["Bidi_Mirrored", "Bidi_M"],
   ["Cased"],
   ["Composition_Exclusion", "CE"],
   ["Case_Ignorable", "CI"],
   ["Full_Composition_Exclusion", "Comp_Ex"],
   ["Changes_When_Casefolded", "CWCF"],
   ["Changes_When_Casemapped", "CWCM"],
   ["Changes_When_NFKC_Casefolded", "CWKCF"],
   ["Changes_When_Lowercased", "CWL"],
   ["Changes_When_Titlecased", "CWT"],
   ["Changes_When_Uppercased", "CWU"],
   ["Dash"],
   ["Deprecated", "Dep"],
   ["Default_Ignorable_Code_Point", "DI"],
   ["Diacritic", "Dia"],
   ["Emoji_Modifier_Base", "EBase"],
   ["Emoji_Component", "EComp"],
   ["Emoji_Modifier", "EMod"],
   ["Emoji"],
   ["Emoji_Presentation", "EPres"],
   ["Extender", "Ext"],
   ["Extended_Pictographic", "ExtPict"],
   ["Grapheme_Base", "Gr_Base"],
   ["Grapheme_Extend", "Gr_Ext"],
   ["Grapheme_Link", "Gr_Link"],
   ["Hex_Digit", "Hex"],
   ["Hyphen"],
   ["ID_Compat_Math_Continue"],
   ["ID_Compat_Math_Start"],
   ["ID_Continue", "IDC"],
   ["Ideographic", "Ideo"],
   ["ID_Start", "IDS"],
   ["IDS_Binary_Operator", "IDSB"],
   ["IDS_Trinary_Operator", "IDST"],
   ["IDS_Unary_Operator", "IDSU"],
   ["Join_Control", "Join_C"],
   ["kEH_NoMirror"],
   ["kEH_NoRotate"],
   ["Logical_Order_Exception", "LOE"],
   ["Lowercase", "Lower"],
   ["Math"],
   ["Modifier_Combining_Mark", "MCM"],
   ["Noncharacter_Code_Point", "NChar"],
   ["Other_Alphabetic", "OAlpha"],
   ["Other_Default_Ignorable_Code_Point", "ODI"],
   ["Other_Grapheme_Extend", "OGr_Ext"],
   ["Other_ID_Continue", "OIDC"],
   ["Other_ID_Start", "OIDS"],
   ["Other_Lowercase", "OLower"],
   ["Other_Math", "OMath"],
   ["Other_Uppercase", "OUpper"],
   ["Pattern_Syntax", "Pat_Syn"],
   ["Pattern_White_Space", "Pat_WS"],
   ["Prepended_Concatenation_Mark", "PCM"],
   ["Quotation_Mark", "QMark"],
   ["Radical"],
   ["Regional_Indicator", "RI"],
   ["Soft_Dotted", "SD"],
   ["Sentence_Terminal", "STerm"],
   ["Terminal_Punctuation", "Term"],
   ["Unified_Ideograph", "UIdeo"],
   ["Uppercase", "Upper"],
   ["Variation_Selector", "VS"],
   ["White_Space", "WSpace", "space"],
   ["XID_Continue", "XIDC"],
   ["XID_Start", "XIDS"],
   ["Expands_On_NFC", "XO_NFC"],
   ["Expands_On_NFD", "XO_NFD"],
   ["Expands_On_NFKC", "XO_NFKC"],
   ["Expands_On_NFKD", "XO_NFKD"]]

/-- The values of General_Category, the two-letter categories and their groups. -/
def categoryAliases : List (List String) :=
  [["Cased_Letter", "LC"],
   ["Close_Punctuation", "Pe"],
   ["Connector_Punctuation", "Pc"],
   ["Control", "Cc", "Cntrl"],
   ["Currency_Symbol", "Sc"],
   ["Dash_Punctuation", "Pd"],
   ["Decimal_Number", "Nd", "Digit"],
   ["Enclosing_Mark", "Me"],
   ["Final_Punctuation", "Pf"],
   ["Format", "Cf"],
   ["Initial_Punctuation", "Pi"],
   ["Letter", "L"],
   ["Letter_Number", "Nl"],
   ["Line_Separator", "Zl"],
   ["Lowercase_Letter", "Ll"],
   ["Mark", "M", "Combining_Mark"],
   ["Math_Symbol", "Sm"],
   ["Modifier_Letter", "Lm"],
   ["Modifier_Symbol", "Sk"],
   ["Nonspacing_Mark", "Mn"],
   ["Number", "N"],
   ["Open_Punctuation", "Ps"],
   ["Other", "C"],
   ["Other_Letter", "Lo"],
   ["Other_Number", "No"],
   ["Other_Punctuation", "Po"],
   ["Other_Symbol", "So"],
   ["Paragraph_Separator", "Zp"],
   ["Private_Use", "Co"],
   ["Punctuation", "P", "Punct"],
   ["Separator", "Z"],
   ["Space_Separator", "Zs"],
   ["Spacing_Mark", "Mc"],
   ["Surrogate", "Cs"],
   ["Symbol", "S"],
   ["Titlecase_Letter", "Lt"],
   ["Unassigned", "Cn"],
   ["Uppercase_Letter", "Lu"]]

/-- The two-letter categories that make up each value of General_Category, by long name.
Surrogate is absent: a text holds no surrogate code points. -/
def categoryGroups : List (String × List String) :=
  [("Cased_Letter", ["Lu", "Ll", "Lt"]),
   ("Close_Punctuation", ["Pe"]),
   ("Connector_Punctuation", ["Pc"]),
   ("Control", ["Cc"]),
   ("Currency_Symbol", ["Sc"]),
   ("Dash_Punctuation", ["Pd"]),
   ("Decimal_Number", ["Nd"]),
   ("Enclosing_Mark", ["Me"]),
   ("Final_Punctuation", ["Pf"]),
   ("Format", ["Cf"]),
   ("Initial_Punctuation", ["Pi"]),
   ("Letter", ["Lu", "Ll", "Lt", "Lm", "Lo"]),
   ("Letter_Number", ["Nl"]),
   ("Line_Separator", ["Zl"]),
   ("Lowercase_Letter", ["Ll"]),
   ("Mark", ["Mn", "Mc", "Me"]),
   ("Math_Symbol", ["Sm"]),
   ("Modifier_Letter", ["Lm"]),
   ("Modifier_Symbol", ["Sk"]),
   ("Nonspacing_Mark", ["Mn"]),
   ("Number", ["Nd", "Nl", "No"]),
   ("Open_Punctuation", ["Ps"]),
   ("Other", ["Cc", "Cf", "Co", "Cn"]),
   ("Other_Letter", ["Lo"]),
   ("Other_Number", ["No"]),
   ("Other_Punctuation", ["Po"]),
   ("Other_Symbol", ["So"]),
   ("Paragraph_Separator", ["Zp"]),
   ("Private_Use", ["Co"]),
   ("Punctuation", ["Pc", "Pd", "Ps", "Pe", "Pi", "Pf", "Po"]),
   ("Separator", ["Zs", "Zl", "Zp"]),
   ("Space_Separator", ["Zs"]),
   ("Spacing_Mark", ["Mc"]),
   ("Symbol", ["Sm", "Sc", "Sk", "So"]),
   ("Titlecase_Letter", ["Lt"]),
   ("Unassigned", ["Cn"]),
   ("Uppercase_Letter", ["Lu"])]

/-- The values of Script that no character has. -/
def unlistedScripts : List (List String) :=
  [["Katakana_Or_Hiragana", "Hrkt"],
   ["Unknown", "Zzzz"]]

/-- The values of Age: the versions, in order, and Unassigned. -/
def ageAliases : List (List String) :=
  [["V1_1", "1.1"],
   ["V2_0", "2.0"],
   ["V2_1", "2.1"],
   ["V3_0", "3.0"],
   ["V3_1", "3.1"],
   ["V3_2", "3.2"],
   ["V4_0", "4.0"],
   ["V4_1", "4.1"],
   ["V5_0", "5.0"],
   ["V5_1", "5.1"],
   ["V5_2", "5.2"],
   ["V6_0", "6.0"],
   ["V6_1", "6.1"],
   ["V6_2", "6.2"],
   ["V6_3", "6.3"],
   ["V7_0", "7.0"],
   ["V8_0", "8.0"],
   ["V9_0", "9.0"],
   ["V10_0", "10.0"],
   ["V11_0", "11.0"],
   ["V12_0", "12.0"],
   ["V12_1", "12.1"],
   ["V13_0", "13.0"],
   ["V14_0", "14.0"],
   ["V15_0", "15.0"],
   ["V15_1", "15.1"],
   ["V16_0", "16.0"],
   ["Unassigned", "NA"]]

/-- The values of Grapheme_Cluster_Break. -/
def graphemeBreakAliases : List (List String) :=
  [["CR"],
   ["Control", "CN"],
   ["E_Base", "EB"],
   ["E_Base_GAZ", "EBG"],
   ["E_Modifier", "EM"],
   ["Extend", "EX"],
   ["Glue_After_Zwj", "GAZ"],
   ["L"],
   ["LF"],
   ["LV"],
   ["LVT"],
   ["Other", "XX"],
   ["Prepend", "PP"],
   ["Regional_Indicator", "RI"],
   ["SpacingMark", "SM"],
   ["T"],
   ["V"],
   ["ZWJ"]]

/-- The values of Word_Break. -/
def wordBreakAliases : List (List String) :=
  [["ALetter", "LE"],
   ["CR"],
   ["Double_Quote", "DQ"],
   ["E_Base", "EB"],
   ["E_Base_GAZ", "EBG"],
   ["E_Modifier", "EM"],
   ["Extend"],
   ["ExtendNumLet", "EX"],
   ["Format", "FO"],
   ["Glue_After_Zwj", "GAZ"],
   ["Hebrew_Letter", "HL"],
   ["Katakana", "KA"],
   ["LF"],
   ["MidLetter", "ML"],
   ["MidNum", "MN"],
   ["MidNumLet", "MB"],
   ["Newline", "NL"],
   ["Numeric", "NU"],
   ["Other", "XX"],
   ["Regional_Indicator", "RI"],
   ["Single_Quote", "SQ"],
   ["WSegSpace"],
   ["ZWJ"]]

/-- The values of Sentence_Break. -/
def sentenceBreakAliases : List (List String) :=
  [["ATerm", "AT"],
   ["CR"],
   ["Close", "CL"],
   ["Extend", "EX"],
   ["Format", "FO"],
   ["LF"],
   ["Lower", "LO"],
   ["Numeric", "NU"],
   ["OLetter", "LE"],
   ["Other", "XX"],
   ["SContinue", "SC"],
   ["STerm", "ST"],
   ["Sep", "SE"],
   ["Sp", "SP"],
   ["Upper", "UP"]]

end Unicode

end ScriptLib
