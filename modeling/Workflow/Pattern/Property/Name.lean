/-!
# Property names

Properties and their values are named loosely: case, blanks, dashes and underscores do not count,
nor does a leading `is`.
-/

namespace Workflow.Pattern.Property

/-- The letters that count of a name without its leading `is`. -/
def significant (name : List Char) : List Char :=
  (name.filter fun c => c.toNat < 128 && c ≠ ' ' && c ≠ '_' && c ≠ '-').map Char.toLower

/-- What a name comes down to. The name `isc` is one of its own and not the
`c` behind a leading `is`. -/
def normalize (name : String) : String :=
  match name.toList with
  | i :: s :: rest =>
    if (i = 'i' || i = 'I') && (s = 's' || s = 'S') then
      let letters := significant rest
      String.ofList (if letters = ['c'] then ['i', 's', 'c'] else letters)
    else String.ofList (significant (i :: s :: rest))
  | short => String.ofList (significant short)

def find? {α : Type} (table : List (List String × α)) (name : String) : Option (List String × α) :=
  table.find? fun entry => entry.1.any fun word => normalize word = name

/-- The properties of the standard, each by its long name and its other names. -/
def properties : List (List String) := [
  ["Age", "age"], ["Alphabetic", "Alpha"], ["ASCII_Hex_Digit", "AHex"], ["Bidi_Class", "bc"],
  ["Bidi_Control", "Bidi_C"], ["Bidi_Mirrored", "Bidi_M"], ["Bidi_Mirroring_Glyph", "bmg"],
  ["Bidi_Paired_Bracket", "bpb"], ["Bidi_Paired_Bracket_Type", "bpt"], ["Block", "blk"],
  ["Canonical_Combining_Class", "ccc"], ["Case_Folding", "cf"], ["Case_Ignorable", "CI"], ["Cased"],
  ["Changes_When_Casefolded", "CWCF"], ["Changes_When_Casemapped", "CWCM"],
  ["Changes_When_Lowercased", "CWL"], ["Changes_When_NFKC_Casefolded", "CWKCF"],
  ["Changes_When_Titlecased", "CWT"], ["Changes_When_Uppercased", "CWU"],
  ["Composition_Exclusion", "CE"], ["Dash"], ["Decomposition_Mapping", "dm"],
  ["Decomposition_Type", "dt"], ["Default_Ignorable_Code_Point", "DI"], ["Deprecated", "Dep"],
  ["Diacritic", "Dia"], ["East_Asian_Width", "ea"], ["Emoji"], ["Emoji_Component", "EComp"],
  ["Emoji_Modifier", "EMod"], ["Emoji_Modifier_Base", "EBase"], ["Emoji_Presentation", "EPres"],
  ["Equivalent_Unified_Ideograph", "EqUIdeo"], ["Expands_On_NFC", "XO_NFC"],
  ["Expands_On_NFD", "XO_NFD"], ["Expands_On_NFKC", "XO_NFKC"], ["Expands_On_NFKD", "XO_NFKD"],
  ["Extended_Pictographic", "ExtPict"], ["Extender", "Ext"], ["FC_NFKC_Closure", "FC_NFKC"],
  ["Full_Composition_Exclusion", "Comp_Ex"], ["General_Category", "gc"],
  ["Grapheme_Base", "Gr_Base"], ["Grapheme_Cluster_Break", "GCB"], ["Grapheme_Extend", "Gr_Ext"],
  ["Grapheme_Link", "Gr_Link"], ["Hangul_Syllable_Type", "hst"], ["Hex_Digit", "Hex"], ["Hyphen"],
  ["ID_Compat_Math_Continue"], ["ID_Compat_Math_Start"], ["ID_Continue", "IDC"],
  ["ID_Start", "IDS"], ["Ideographic", "Ideo"], ["IDS_Binary_Operator", "IDSB"],
  ["IDS_Trinary_Operator", "IDST"], ["IDS_Unary_Operator", "IDSU"],
  ["Indic_Conjunct_Break", "InCB"], ["Indic_Positional_Category", "InPC"],
  ["Indic_Syllabic_Category", "InSC"], ["ISO_Comment", "isc"], ["Jamo_Short_Name", "JSN"],
  ["Join_Control", "Join_C"], ["Joining_Group", "jg"], ["Joining_Type", "jt"],
  ["kAccountingNumeric", "cjkAccountingNumeric"],
  ["kCompatibilityVariant", "cjkCompatibilityVariant"], ["kEH_Cat"], ["kEH_Desc"], ["kEH_HG"],
  ["kEH_IFAO"], ["kEH_JSesh"], ["kEH_NoMirror"], ["kEH_NoRotate"], ["kIICore", "cjkIICore"],
  ["kIRG_GSource", "cjkIRG_GSource"], ["kIRG_HSource", "cjkIRG_HSource"],
  ["kIRG_JSource", "cjkIRG_JSource"], ["kIRG_KPSource", "cjkIRG_KPSource"],
  ["kIRG_KSource", "cjkIRG_KSource"], ["kIRG_MSource", "cjkIRG_MSource"],
  ["kIRG_SSource", "cjkIRG_SSource"], ["kIRG_TSource", "cjkIRG_TSource"],
  ["kIRG_UKSource", "cjkIRG_UKSource"], ["kIRG_USource", "cjkIRG_USource"],
  ["kIRG_VSource", "cjkIRG_VSource"], ["kOtherNumeric", "cjkOtherNumeric"],
  ["kPrimaryNumeric", "cjkPrimaryNumeric"],
  ["kRSUnicode", "cjkRSUnicode", "Unicode_Radical_Stroke", "URS"], ["Line_Break", "lb"],
  ["Logical_Order_Exception", "LOE"], ["Lowercase", "Lower"], ["Lowercase_Mapping", "lc"], ["Math"],
  ["Modifier_Combining_Mark", "MCM"], ["Name", "na"], ["Name_Alias"], ["NFC_Quick_Check", "NFC_QC"],
  ["NFD_Quick_Check", "NFD_QC"], ["NFKC_Casefold", "NFKC_CF"], ["NFKC_Quick_Check", "NFKC_QC"],
  ["NFKC_Simple_Casefold", "NFKC_SCF"], ["NFKD_Quick_Check", "NFKD_QC"],
  ["Noncharacter_Code_Point", "NChar"], ["Numeric_Type", "nt"], ["Numeric_Value", "nv"],
  ["Other_Alphabetic", "OAlpha"], ["Other_Default_Ignorable_Code_Point", "ODI"],
  ["Other_Grapheme_Extend", "OGr_Ext"], ["Other_ID_Continue", "OIDC"], ["Other_ID_Start", "OIDS"],
  ["Other_Lowercase", "OLower"], ["Other_Math", "OMath"], ["Other_Uppercase", "OUpper"],
  ["Pattern_Syntax", "Pat_Syn"], ["Pattern_White_Space", "Pat_WS"],
  ["Prepended_Concatenation_Mark", "PCM"], ["Quotation_Mark", "QMark"], ["Radical"],
  ["Regional_Indicator", "RI"], ["Script", "sc"], ["Script_Extensions", "scx"],
  ["Sentence_Break", "SB"], ["Sentence_Terminal", "STerm"], ["Simple_Case_Folding", "scf", "Sfc"],
  ["Simple_Lowercase_Mapping", "slc"], ["Simple_Titlecase_Mapping", "stc"],
  ["Simple_Uppercase_Mapping", "suc"], ["Soft_Dotted", "SD"], ["Terminal_Punctuation", "Term"],
  ["Titlecase_Mapping", "tc"], ["Unicode_1_Name", "na1"], ["Unified_Ideograph", "UIdeo"],
  ["Uppercase", "Upper"], ["Uppercase_Mapping", "uc"], ["Variation_Selector", "VS"],
  ["Vertical_Orientation", "vo"], ["White_Space", "WSpace", "Space"], ["Word_Break", "WB"],
  ["XID_Continue", "XIDC"], ["XID_Start", "XIDS"]]

/-- The long name of a property one of whose names comes down to `name`. -/
def property? (name : String) : Option String :=
  (properties.find? fun names => names.any fun word => normalize word = name).bind List.head?

end Workflow.Pattern.Property
