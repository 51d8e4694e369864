import Listing.Unicode.Age
import Listing.Unicode.Break

/-!
# Asking for characters by property

A question names a property that characters have or have not, a general category or a script, or it
names a property together with one of its values. `Query.answer` gives the characters, or says
whether it is the property or the value that is unknown.
-/

namespace Listing.Unicode

/-- A question for characters. -/
structure Query where
  /-- The property, or the value if there is no property with that name. -/
  name : String
  /-- The value of the property. -/
  value : Option String
deriving DecidableEq, Repr

/-- Why there is no answer to a question. -/
inductive QueryFault where
  /-- There is no such property. -/
  | unknownProperty
  /-- The property has no such value. -/
  | unknownValue
deriving DecidableEq, Repr

/-- The properties that have values but no members to ask for. -/
def furtherProperties : List String :=
  ["Bidi_M", "Bidi_Mirrored", "CE", "Composition_Exclusion", "Comp_Ex",
    "Full_Composition_Exclusion", "CWKCF", "Changes_When_NFKC_Casefolded", "XO_NFC",
    "Expands_On_NFC", "XO_NFD", "Expands_On_NFD", "XO_NFKC", "Expands_On_NFKC", "XO_NFKD",
    "Expands_On_NFKD", "bc", "Bidi_Class", "blk", "Block", "bmg", "Bidi_Mirroring_Glyph", "bpb",
    "Bidi_Paired_Bracket", "bpt", "Bidi_Paired_Bracket_Type", "ccc", "Canonical_Combining_Class",
    "cf", "Case_Folding", "dm", "Decomposition_Mapping", "dt", "Decomposition_Type", "ea",
    "East_Asian_Width", "EqUIdeo", "Equivalent_Unified_Ideograph", "FC_NFKC", "FC_NFKC_Closure",
    "hst", "Hangul_Syllable_Type", "InCB", "Indic_Conjunct_Break", "InPC",
    "Indic_Positional_Category", "InSC", "Indic_Syllabic_Category", "isc", "ISO_Comment", "jg",
    "Joining_Group", "JSN", "Jamo_Short_Name", "jt", "Joining_Type", "lb", "Line_Break", "lc",
    "Lowercase_Mapping", "na", "Name", "na1", "Unicode_1_Name", "Name_Alias", "NFC_QC",
    "NFC_Quick_Check", "NFD_QC", "NFD_Quick_Check", "NFKC_CF", "NFKC_Casefold", "NFKC_QC",
    "NFKC_Quick_Check", "NFKC_SCF", "NFKC_Simple_Casefold", "NFKD_QC", "NFKD_Quick_Check", "nt",
    "Numeric_Type", "nv", "Numeric_Value", "scf", "Simple_Case_Folding", "sfc", "slc",
    "Simple_Lowercase_Mapping", "stc", "Simple_Titlecase_Mapping", "suc",
    "Simple_Uppercase_Mapping", "tc", "Titlecase_Mapping", "uc", "Uppercase_Mapping", "vo",
    "Vertical_Orientation", "cjkAccountingNumeric", "kAccountingNumeric",
    "cjkCompatibilityVariant", "kCompatibilityVariant", "cjkIICore", "kIICore",
    "cjkIRG_GSource", "kIRG_GSource", "cjkIRG_HSource", "kIRG_HSource", "cjkIRG_JSource",
    "kIRG_JSource", "cjkIRG_KPSource", "kIRG_KPSource", "cjkIRG_KSource", "kIRG_KSource",
    "cjkIRG_MSource", "kIRG_MSource", "cjkIRG_SSource", "kIRG_SSource", "cjkIRG_TSource",
    "kIRG_TSource", "cjkIRG_UKSource", "kIRG_UKSource", "cjkIRG_USource", "kIRG_USource",
    "cjkIRG_VSource", "kIRG_VSource", "cjkMandarin", "kMandarin", "cjkOtherNumeric",
    "kOtherNumeric", "cjkPrimaryNumeric", "kPrimaryNumeric", "cjkRSUnicode", "kRSUnicode",
    "Unicode_Radical_Stroke", "URS", "cjkTotalStrokes", "kTotalStrokes", "cjkUnihanCore2020",
    "kUnihanCore2020", "kEH_Cat", "kEH_Core", "kEH_Desc", "kEH_Func", "kEH_FVal", "kEH_HG",
    "kEH_IFAO", "kEH_JSesh", "kEH_NoMirror", "kEH_NoRotate", "kEH_UniK"]

/-- The value of a property with values that have members; nothing if there is no such property. -/
def valuesOf? (property : List Char) : Option (List Char → ClassAnswer) :=
  let isOneOf (names : List String) : Bool := names.any (looseName · == property)
  if isOneOf ["gc", "General_Category"] then some category?
  else if isOneOf ["sc", "Script"] then some script?
  else if isOneOf ["scx", "Script_Extensions"] then some scriptExtension?
  else if isOneOf ["age", "Age"] then some age?
  else if isOneOf ["GCB", "Grapheme_Cluster_Break"] then some graphemeBreak?
  else if isOneOf ["WB", "Word_Break"] then some wordBreak?
  else if isOneOf ["SB", "Sentence_Break"] then some sentenceBreak?
  else if (binaryProperty? property).isSome || furtherProperties.any (looseName · == property) then
    some fun _ => none
  else none

namespace Query

/-- The characters that are asked for. A name alone is looked for among the properties, the
categories and the scripts, in that order. -/
def answer (q : Query) : Except QueryFault Ranges :=
  let name := looseName q.name
  match q.value with
  | none =>
    match binaryProperty? name with
    | some ranges => .ok ranges
    | none =>
      match (category? name).orElse fun _ => script? name with
      | none => .error .unknownProperty
      | some none => .error .unknownValue
      | some (some ranges) => .ok ranges
  | some value =>
    match valuesOf? name with
    | none => .error .unknownProperty
    | some values =>
      match values (looseName value) with
      | some (some ranges) => .ok ranges
      | _ => .error .unknownValue

end Query

end Listing.Unicode
