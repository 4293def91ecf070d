/-!
# Names of properties and values

The names by which patterns refer to properties of the character database and to their values:
every alias, short or long, paired with the long name, as the database lists them for Unicode
16.0.  The lists of long names fix the positions that the compact tables use as values.
-/

namespace DataQuality.Unicode.Tables

/-- Each alias of a property, with the long name of the property. -/
def propertyAliases : List (String × String) := [
  ("ASCII_Hex_Digit", "ASCII_Hex_Digit"),
  ("AHex", "ASCII_Hex_Digit"),
  ("Age", "Age"),
  ("age", "Age"),
  ("Alphabetic", "Alphabetic"),
  ("Alpha", "Alphabetic"),
  ("Bidi_Class", "Bidi_Class"),
  ("bc", "Bidi_Class"),
  ("Bidi_Control", "Bidi_Control"),
  ("Bidi_C", "Bidi_Control"),
  ("Bidi_Mirrored", "Bidi_Mirrored"),
  ("Bidi_M", "Bidi_Mirrored"),
  ("Bidi_Mirroring_Glyph", "Bidi_Mirroring_Glyph"),
  ("bmg", "Bidi_Mirroring_Glyph"),
  ("Bidi_Paired_Bracket", "Bidi_Paired_Bracket"),
  ("bpb", "Bidi_Paired_Bracket"),
  ("Bidi_Paired_Bracket_Type", "Bidi_Paired_Bracket_Type"),
  ("bpt", "Bidi_Paired_Bracket_Type"),
  ("Block", "Block"),
  ("blk", "Block"),
  ("Canonical_Combining_Class", "Canonical_Combining_Class"),
  ("ccc", "Canonical_Combining_Class"),
  ("Case_Folding", "Case_Folding"),
  ("cf", "Case_Folding"),
  ("Case_Ignorable", "Case_Ignorable"),
  ("CI", "Case_Ignorable"),
  ("Cased", "Cased"),
  ("Changes_When_Casefolded", "Changes_When_Casefolded"),
  ("CWCF", "Changes_When_Casefolded"),
  ("Changes_When_Casemapped", "Changes_When_Casemapped"),
  ("CWCM", "Changes_When_Casemapped"),
  ("Changes_When_Lowercased", "Changes_When_Lowercased"),
  ("CWL", "Changes_When_Lowercased"),
  ("Changes_When_NFKC_Casefolded", "Changes_When_NFKC_Casefolded"),
  ("CWKCF", "Changes_When_NFKC_Casefolded"),
  ("Changes_When_Titlecased", "Changes_When_Titlecased"),
  ("CWT", "Changes_When_Titlecased"),
  ("Changes_When_Uppercased", "Changes_When_Uppercased"),
  ("CWU", "Changes_When_Uppercased"),
  ("Composition_Exclusion", "Composition_Exclusion"),
  ("CE", "Composition_Exclusion"),
  ("Dash", "Dash"),
  ("Decomposition_Mapping", "Decomposition_Mapping"),
  ("dm", "Decomposition_Mapping"),
  ("Decomposition_Type", "Decomposition_Type"),
  ("dt", "Decomposition_Type"),
  ("Default_Ignorable_Code_Point", "Default_Ignorable_Code_Point"),
  ("DI", "Default_Ignorable_Code_Point"),
  ("Deprecated", "Deprecated"),
  ("Dep", "Deprecated"),
  ("Diacritic", "Diacritic"),
  ("Dia", "Diacritic"),
  ("East_Asian_Width", "East_Asian_Width"),
  ("ea", "East_Asian_Width"),
  ("Emoji", "Emoji"),
  ("Emoji_Component", "Emoji_Component"),
  ("EComp", "Emoji_Component"),
  ("Emoji_Modifier", "Emoji_Modifier"),
  ("EMod", "Emoji_Modifier"),
  ("Emoji_Modifier_Base", "Emoji_Modifier_Base"),
  ("EBase", "Emoji_Modifier_Base"),
  ("Emoji_Presentation", "Emoji_Presentation"),
  ("EPres", "Emoji_Presentation"),
  ("Equivalent_Unified_Ideograph", "Equivalent_Unified_Ideograph"),
  ("EqUIdeo", "Equivalent_Unified_Ideograph"),
  ("Expands_On_NFC", "Expands_On_NFC"),
  ("Expands_On_NFD", "Expands_On_NFD"),
  ("Expands_On_NFKC", "Expands_On_NFKC"),
  ("Expands_On_NFKD", "Expands_On_NFKD"),
  ("Extended_Pictographic", "Extended_Pictographic"),
  ("ExtPict", "Extended_Pictographic"),
  ("Extender", "Extender"),
  ("Ext", "Extender"),
  ("FC_NFKC_Closure", "FC_NFKC_Closure"),
  ("Full_Composition_Exclusion", "Full_Composition_Exclusion"),
  ("Comp_Ex", "Full_Composition_Exclusion"),
  ("General_Category", "General_Category"),
  ("gc", "General_Category"),
  ("Category", "General_Category"),
  ("Grapheme_Base", "Grapheme_Base"),
  ("Gr_Base", "Grapheme_Base"),
  ("Grapheme_Cluster_Break", "Grapheme_Cluster_Break"),
  ("GCB", "Grapheme_Cluster_Break"),
  ("Grapheme_Extend", "Grapheme_Extend"),
  ("Gr_Ext", "Grapheme_Extend"),
  ("Grapheme_Link", "Grapheme_Link"),
  ("Hangul_Syllable_Type", "Hangul_Syllable_Type"),
  ("hst", "Hangul_Syllable_Type"),
  ("Hex_Digit", "Hex_Digit"),
  ("Hex", "Hex_Digit"),
  ("Hyphen", "Hyphen"),
  ("IDS_Binary_Operator", "IDS_Binary_Operator"),
  ("IDSB", "IDS_Binary_Operator"),
  ("IDS_Trinary_Operator", "IDS_Trinary_Operator"),
  ("IDST", "IDS_Trinary_Operator"),
  ("ID_Continue", "ID_Continue"),
  ("IDC", "ID_Continue"),
  ("ID_Start", "ID_Start"),
  ("IDS", "ID_Start"),
  ("ISO_Comment", "ISO_Comment"),
  ("isc", "ISO_Comment"),
  ("Ideographic", "Ideographic"),
  ("Ideo", "Ideographic"),
  ("Indic_Positional_Category", "Indic_Positional_Category"),
  ("InPC", "Indic_Positional_Category"),
  ("Indic_Syllabic_Category", "Indic_Syllabic_Category"),
  ("InSC", "Indic_Syllabic_Category"),
  ("Jamo_Short_Name", "Jamo_Short_Name"),
  ("Join_Control", "Join_Control"),
  ("Join_C", "Join_Control"),
  ("Joining_Group", "Joining_Group"),
  ("jg", "Joining_Group"),
  ("Joining_Type", "Joining_Type"),
  ("jt", "Joining_Type"),
  ("Line_Break", "Line_Break"),
  ("lb", "Line_Break"),
  ("Logical_Order_Exception", "Logical_Order_Exception"),
  ("LOE", "Logical_Order_Exception"),
  ("Lowercase", "Lowercase"),
  ("Lower", "Lowercase"),
  ("Lowercase_Mapping", "Lowercase_Mapping"),
  ("lc", "Lowercase_Mapping"),
  ("Math", "Math"),
  ("NFC_Quick_Check", "NFC_Quick_Check"),
  ("NFC_QC", "NFC_Quick_Check"),
  ("NFD_Quick_Check", "NFD_Quick_Check"),
  ("NFD_QC", "NFD_Quick_Check"),
  ("NFKC_Casefold", "NFKC_Casefold"),
  ("NFKC_CF", "NFKC_Casefold"),
  ("NFKC_Quick_Check", "NFKC_Quick_Check"),
  ("NFKC_QC", "NFKC_Quick_Check"),
  ("NFKD_Quick_Check", "NFKD_Quick_Check"),
  ("NFKD_QC", "NFKD_Quick_Check"),
  ("Name", "Name"),
  ("na", "Name"),
  ("Name_Alias", "Name_Alias"),
  ("Noncharacter_Code_Point", "Noncharacter_Code_Point"),
  ("NChar", "Noncharacter_Code_Point"),
  ("Numeric_Type", "Numeric_Type"),
  ("nt", "Numeric_Type"),
  ("Numeric_Value", "Numeric_Value"),
  ("nv", "Numeric_Value"),
  ("Other_Alphabetic", "Other_Alphabetic"),
  ("Other_Default_Ignorable_Code_Point", "Other_Default_Ignorable_Code_Point"),
  ("Other_Grapheme_Extend", "Other_Grapheme_Extend"),
  ("Other_ID_Continue", "Other_ID_Continue"),
  ("Other_ID_Start", "Other_ID_Start"),
  ("Other_Lowercase", "Other_Lowercase"),
  ("Other_Math", "Other_Math"),
  ("Other_Uppercase", "Other_Uppercase"),
  ("Pattern_Syntax", "Pattern_Syntax"),
  ("Pat_Syn", "Pattern_Syntax"),
  ("Pattern_White_Space", "Pattern_White_Space"),
  ("Pat_WS", "Pattern_White_Space"),
  ("Prepended_Concatenation_Mark", "Prepended_Concatenation_Mark"),
  ("PCM", "Prepended_Concatenation_Mark"),
  ("Quotation_Mark", "Quotation_Mark"),
  ("QMark", "Quotation_Mark"),
  ("Radical", "Radical"),
  ("Regional_Indicator", "Regional_Indicator"),
  ("RI", "Regional_Indicator"),
  ("Script", "Script"),
  ("sc", "Script"),
  ("Script_Extensions", "Script_Extensions"),
  ("scx", "Script_Extensions"),
  ("Sentence_Break", "Sentence_Break"),
  ("SB", "Sentence_Break"),
  ("Sentence_Terminal", "Sentence_Terminal"),
  ("STerm", "Sentence_Terminal"),
  ("Simple_Case_Folding", "Simple_Case_Folding"),
  ("scf", "Simple_Case_Folding"),
  ("Sfc", "Simple_Case_Folding"),
  ("Simple_Lowercase_Mapping", "Simple_Lowercase_Mapping"),
  ("slc", "Simple_Lowercase_Mapping"),
  ("Simple_Titlecase_Mapping", "Simple_Titlecase_Mapping"),
  ("stc", "Simple_Titlecase_Mapping"),
  ("Simple_Uppercase_Mapping", "Simple_Uppercase_Mapping"),
  ("suc", "Simple_Uppercase_Mapping"),
  ("Soft_Dotted", "Soft_Dotted"),
  ("SD", "Soft_Dotted"),
  ("Terminal_Punctuation", "Terminal_Punctuation"),
  ("Term", "Terminal_Punctuation"),
  ("Titlecase_Mapping", "Titlecase_Mapping"),
  ("tc", "Titlecase_Mapping"),
  ("Unicode_1_Name", "Unicode_1_Name"),
  ("na1", "Unicode_1_Name"),
  ("Unified_Ideograph", "Unified_Ideograph"),
  ("UIdeo", "Unified_Ideograph"),
  ("Uppercase", "Uppercase"),
  ("Upper", "Uppercase"),
  ("Uppercase_Mapping", "Uppercase_Mapping"),
  ("uc", "Uppercase_Mapping"),
  ("Variation_Selector", "Variation_Selector"),
  ("VS", "Variation_Selector"),
  ("Vertical_Orientation", "Vertical_Orientation"),
  ("vo", "Vertical_Orientation"),
  ("White_Space", "White_Space"),
  ("WSpace", "White_Space"),
  ("Space", "White_Space"),
  ("Word_Break", "Word_Break"),
  ("WB", "Word_Break"),
  ("XID_Continue", "XID_Continue"),
  ("XIDC", "XID_Continue"),
  ("XID_Start", "XID_Start"),
  ("XIDS", "XID_Start"),
  ("kAccountingNumeric", "kAccountingNumeric"),
  ("kCompatibilityVariant", "kCompatibilityVariant"),
  ("kIICore", "kIICore"),
  ("kIRG_GSource", "kIRG_GSource"),
  ("kIRG_HSource", "kIRG_HSource"),
  ("kIRG_JSource", "kIRG_JSource"),
  ("kIRG_KPSource", "kIRG_KPSource"),
  ("kIRG_KSource", "kIRG_KSource"),
  ("kIRG_MSource", "kIRG_MSource"),
  ("kIRG_SSource", "kIRG_SSource"),
  ("kIRG_TSource", "kIRG_TSource"),
  ("kIRG_UKSource", "kIRG_UKSource"),
  ("kIRG_USource", "kIRG_USource"),
  ("kIRG_VSource", "kIRG_VSource"),
  ("kOtherNumeric", "kOtherNumeric"),
  ("kPrimaryNumeric", "kPrimaryNumeric"),
  ("kRSUnicode", "kRSUnicode"),
  ("OAlpha", "Other_Alphabetic"),
  ("ODI", "Other_Default_Ignorable_Code_Point"),
  ("OGr_Ext", "Other_Grapheme_Extend"),
  ("OIDC", "Other_ID_Continue"),
  ("OIDS", "Other_ID_Start"),
  ("OLower", "Other_Lowercase"),
  ("OMath", "Other_Math"),
  ("OUpper", "Other_Uppercase"),
  ("Gr_Link", "Grapheme_Link"),
  ("IDS_Unary_Operator", "IDS_Unary_Operator"),
  ("IDSU", "IDS_Unary_Operator"),
  ("ID_Compat_Math_Continue", "ID_Compat_Math_Continue"),
  ("ID_Compat_Math_Start", "ID_Compat_Math_Start"),
  ("Indic_Conjunct_Break", "Indic_Conjunct_Break"),
  ("InCB", "Indic_Conjunct_Break"),
  ("NFKC_Simple_Casefold", "NFKC_Simple_Casefold"),
  ("NFKC_SCF", "NFKC_Simple_Casefold"),
  ("Modifier_Combining_Mark", "Modifier_Combining_Mark"),
  ("MCM", "Modifier_Combining_Mark"),
  ("XO_NFC", "Expands_On_NFC"),
  ("XO_NFD", "Expands_On_NFD"),
  ("XO_NFKC", "Expands_On_NFKC"),
  ("XO_NFKD", "Expands_On_NFKD"),
  ("FC_NFKC", "FC_NFKC_Closure"),
  ("JSN", "Jamo_Short_Name"),
  ("cjkAccountingNumeric", "kAccountingNumeric"),
  ("cjkOtherNumeric", "kOtherNumeric"),
  ("cjkPrimaryNumeric", "kPrimaryNumeric"),
  ("cjkCompatibilityVariant", "kCompatibilityVariant"),
  ("cjkIICore", "kIICore"),
  ("cjkRSUnicode", "kRSUnicode"),
  ("Unicode_Radical_Stroke", "kRSUnicode"),
  ("URS", "kRSUnicode"),
  ("cjkIRG_GSource", "kIRG_GSource"),
  ("cjkIRG_HSource", "kIRG_HSource"),
  ("cjkIRG_JSource", "kIRG_JSource"),
  ("cjkIRG_KPSource", "kIRG_KPSource"),
  ("cjkIRG_KSource", "kIRG_KSource"),
  ("cjkIRG_MSource", "kIRG_MSource"),
  ("cjkIRG_SSource", "kIRG_SSource"),
  ("cjkIRG_TSource", "kIRG_TSource"),
  ("cjkIRG_UKSource", "kIRG_UKSource"),
  ("cjkIRG_USource", "kIRG_USource"),
  ("cjkIRG_VSource", "kIRG_VSource"),
  ("kEH_Cat", "kEH_Cat"),
  ("kEH_Desc", "kEH_Desc"),
  ("kEH_Func", "kEH_Func"),
  ("kEH_FVal", "kEH_FVal"),
  ("kEH_HG", "kEH_HG"),
  ("kEH_IFAO", "kEH_IFAO"),
  ("kEH_JSesh", "kEH_JSesh"),
  ("kEH_NoMirror", "kEH_NoMirror"),
  ("kEH_NoRotate", "kEH_NoRotate")]

/-- Each alias of a general category or group of categories, with its long name. -/
def categoryAliases : List (String × String) := [
  ("C", "Other"),
  ("Other", "Other"),
  ("Cc", "Control"),
  ("Control", "Control"),
  ("Cntrl", "Control"),
  ("Cf", "Format"),
  ("Format", "Format"),
  ("Cn", "Unassigned"),
  ("Unassigned", "Unassigned"),
  ("Co", "Private_Use"),
  ("Private_Use", "Private_Use"),
  ("Cs", "Surrogate"),
  ("Surrogate", "Surrogate"),
  ("L", "Letter"),
  ("Letter", "Letter"),
  ("LC", "Cased_Letter"),
  ("Cased_Letter", "Cased_Letter"),
  ("Ll", "Lowercase_Letter"),
  ("Lowercase_Letter", "Lowercase_Letter"),
  ("Lm", "Modifier_Letter"),
  ("Modifier_Letter", "Modifier_Letter"),
  ("Lo", "Other_Letter"),
  ("Other_Letter", "Other_Letter"),
  ("Lt", "Titlecase_Letter"),
  ("Titlecase_Letter", "Titlecase_Letter"),
  ("Lu", "Uppercase_Letter"),
  ("Uppercase_Letter", "Uppercase_Letter"),
  ("M", "Mark"),
  ("Mark", "Mark"),
  ("Combining_Mark", "Mark"),
  ("Mc", "Spacing_Mark"),
  ("Spacing_Mark", "Spacing_Mark"),
  ("Me", "Enclosing_Mark"),
  ("Enclosing_Mark", "Enclosing_Mark"),
  ("Mn", "Nonspacing_Mark"),
  ("Nonspacing_Mark", "Nonspacing_Mark"),
  ("N", "Number"),
  ("Number", "Number"),
  ("Nd", "Decimal_Number"),
  ("Decimal_Number", "Decimal_Number"),
  ("Digit", "Decimal_Number"),
  ("Nl", "Letter_Number"),
  ("Letter_Number", "Letter_Number"),
  ("No", "Other_Number"),
  ("Other_Number", "Other_Number"),
  ("P", "Punctuation"),
  ("Punctuation", "Punctuation"),
  ("Punct", "Punctuation"),
  ("Pc", "Connector_Punctuation"),
  ("Connector_Punctuation", "Connector_Punctuation"),
  ("Pd", "Dash_Punctuation"),
  ("Dash_Punctuation", "Dash_Punctuation"),
  ("Pe", "Close_Punctuation"),
  ("Close_Punctuation", "Close_Punctuation"),
  ("Pf", "Final_Punctuation"),
  ("Final_Punctuation", "Final_Punctuation"),
  ("Pi", "Initial_Punctuation"),
  ("Initial_Punctuation", "Initial_Punctuation"),
  ("Po", "Other_Punctuation"),
  ("Other_Punctuation", "Other_Punctuation"),
  ("Ps", "Open_Punctuation"),
  ("Open_Punctuation", "Open_Punctuation"),
  ("S", "Symbol"),
  ("Symbol", "Symbol"),
  ("Sc", "Currency_Symbol"),
  ("Currency_Symbol", "Currency_Symbol"),
  ("Sk", "Modifier_Symbol"),
  ("Modifier_Symbol", "Modifier_Symbol"),
  ("Sm", "Math_Symbol"),
  ("Math_Symbol", "Math_Symbol"),
  ("So", "Other_Symbol"),
  ("Other_Symbol", "Other_Symbol"),
  ("Z", "Separator"),
  ("Separator", "Separator"),
  ("Zl", "Line_Separator"),
  ("Line_Separator", "Line_Separator"),
  ("Zp", "Paragraph_Separator"),
  ("Paragraph_Separator", "Paragraph_Separator"),
  ("Zs", "Space_Separator"),
  ("Space_Separator", "Space_Separator")]

/-- Each alias of a script, with its long name. -/
def scriptAliases : List (String × String) := [
  ("Adlm", "Adlam"),
  ("Adlam", "Adlam"),
  ("Aghb", "Caucasian_Albanian"),
  ("Caucasian_Albanian", "Caucasian_Albanian"),
  ("Ahom", "Ahom"),
  ("Arab", "Arabic"),
  ("Arabic", "Arabic"),
  ("Armi", "Imperial_Aramaic"),
  ("Imperial_Aramaic", "Imperial_Aramaic"),
  ("Armn", "Armenian"),
  ("Armenian", "Armenian"),
  ("Avst", "Avestan"),
  ("Avestan", "Avestan"),
  ("Bali", "Balinese"),
  ("Balinese", "Balinese"),
  ("Bamu", "Bamum"),
  ("Bamum", "Bamum"),
  ("Bass", "Bassa_Vah"),
  ("Bassa_Vah", "Bassa_Vah"),
  ("Batk", "Batak"),
  ("Batak", "Batak"),
  ("Beng", "Bengali"),
  ("Bengali", "Bengali"),
  ("Bhks", "Bhaiksuki"),
  ("Bhaiksuki", "Bhaiksuki"),
  ("Bopo", "Bopomofo"),
  ("Bopomofo", "Bopomofo"),
  ("Brah", "Brahmi"),
  ("Brahmi", "Brahmi"),
  ("Brai", "Braille"),
  ("Braille", "Braille"),
  ("Bugi", "Buginese"),
  ("Buginese", "Buginese"),
  ("Buhd", "Buhid"),
  ("Buhid", "Buhid"),
  ("Cakm", "Chakma"),
  ("Chakma", "Chakma"),
  ("Cans", "Canadian_Aboriginal"),
  ("Canadian_Aboriginal", "Canadian_Aboriginal"),
  ("Cari", "Carian"),
  ("Carian", "Carian"),
  ("Cham", "Cham"),
  ("Cher", "Cherokee"),
  ("Cherokee", "Cherokee"),
  ("Chrs", "Chorasmian"),
  ("Chorasmian", "Chorasmian"),
  ("Copt", "Coptic"),
  ("Coptic", "Coptic"),
  ("Qaac", "Coptic"),
  ("Cpmn", "Cypro_Minoan"),
  ("Cypro_Minoan", "Cypro_Minoan"),
  ("Cprt", "Cypriot"),
  ("Cypriot", "Cypriot"),
  ("Cyrl", "Cyrillic"),
  ("Cyrillic", "Cyrillic"),
  ("Deva", "Devanagari"),
  ("Devanagari", "Devanagari"),
  ("Diak", "Dives_Akuru"),
  ("Dives_Akuru", "Dives_Akuru"),
  ("Dogr", "Dogra"),
  ("Dogra", "Dogra"),
  ("Dsrt", "Deseret"),
  ("Deseret", "Deseret"),
  ("Dupl", "Duployan"),
  ("Duployan", "Duployan"),
  ("Egyp", "Egyptian_Hieroglyphs"),
  ("Egyptian_Hieroglyphs", "Egyptian_Hieroglyphs"),
  ("Elba", "Elbasan"),
  ("Elbasan", "Elbasan"),
  ("Elym", "Elymaic"),
  ("Elymaic", "Elymaic"),
  ("Ethi", "Ethiopic"),
  ("Ethiopic", "Ethiopic"),
  ("Geor", "Georgian"),
  ("Georgian", "Georgian"),
  ("Glag", "Glagolitic"),
  ("Glagolitic", "Glagolitic"),
  ("Gong", "Gunjala_Gondi"),
  ("Gunjala_Gondi", "Gunjala_Gondi"),
  ("Gonm", "Masaram_Gondi"),
  ("Masaram_Gondi", "Masaram_Gondi"),
  ("Goth", "Gothic"),
  ("Gothic", "Gothic"),
  ("Gran", "Grantha"),
  ("Grantha", "Grantha"),
  ("Grek", "Greek"),
  ("Greek", "Greek"),
  ("Gujr", "Gujarati"),
  ("Gujarati", "Gujarati"),
  ("Guru", "Gurmukhi"),
  ("Gurmukhi", "Gurmukhi"),
  ("Hang", "Hangul"),
  ("Hangul", "Hangul"),
  ("Hani", "Han"),
  ("Han", "Han"),
  ("Hano", "Hanunoo"),
  ("Hanunoo", "Hanunoo"),
  ("Hatr", "Hatran"),
  ("Hatran", "Hatran"),
  ("Hebr", "Hebrew"),
  ("Hebrew", "Hebrew"),
  ("Hira", "Hiragana"),
  ("Hiragana", "Hiragana"),
  ("Hluw", "Anatolian_Hieroglyphs"),
  ("Anatolian_Hieroglyphs", "Anatolian_Hieroglyphs"),
  ("Hmng", "Pahawh_Hmong"),
  ("Pahawh_Hmong", "Pahawh_Hmong"),
  ("Hmnp", "Nyiakeng_Puachue_Hmong"),
  ("Nyiakeng_Puachue_Hmong", "Nyiakeng_Puachue_Hmong"),
  ("Hrkt", "Katakana_Or_Hiragana"),
  ("Katakana_Or_Hiragana", "Katakana_Or_Hiragana"),
  ("Hung", "Old_Hungarian"),
  ("Old_Hungarian", "Old_Hungarian"),
  ("Ital", "Old_Italic"),
  ("Old_Italic", "Old_Italic"),
  ("Java", "Javanese"),
  ("Javanese", "Javanese"),
  ("Kali", "Kayah_Li"),
  ("Kayah_Li", "Kayah_Li"),
  ("Kana", "Katakana"),
  ("Katakana", "Katakana"),
  ("Kawi", "Kawi"),
  ("Khar", "Kharoshthi"),
  ("Kharoshthi", "Kharoshthi"),
  ("Khmr", "Khmer"),
  ("Khmer", "Khmer"),
  ("Khoj", "Khojki"),
  ("Khojki", "Khojki"),
  ("Kits", "Khitan_Small_Script"),
  ("Khitan_Small_Script", "Khitan_Small_Script"),
  ("Knda", "Kannada"),
  ("Kannada", "Kannada"),
  ("Kthi", "Kaithi"),
  ("Kaithi", "Kaithi"),
  ("Lana", "Tai_Tham"),
  ("Tai_Tham", "Tai_Tham"),
  ("Laoo", "Lao"),
  ("Lao", "Lao"),
  ("Latn", "Latin"),
  ("Latin", "Latin"),
  ("Lepc", "Lepcha"),
  ("Lepcha", "Lepcha"),
  ("Limb", "Limbu"),
  ("Limbu", "Limbu"),
  ("Lina", "Linear_A"),
  ("Linear_A", "Linear_A"),
  ("Linb", "Linear_B"),
  ("Linear_B", "Linear_B"),
  ("Lisu", "Lisu"),
  ("Lyci", "Lycian"),
  ("Lycian", "Lycian"),
  ("Lydi", "Lydian"),
  ("Lydian", "Lydian"),
  ("Mahj", "Mahajani"),
  ("Mahajani", "Mahajani"),
  ("Maka", "Makasar"),
  ("Makasar", "Makasar"),
  ("Mand", "Mandaic"),
  ("Mandaic", "Mandaic"),
  ("Mani", "Manichaean"),
  ("Manichaean", "Manichaean"),
  ("Marc", "Marchen"),
  ("Marchen", "Marchen"),
  ("Medf", "Medefaidrin"),
  ("Medefaidrin", "Medefaidrin"),
  ("Mend", "Mende_Kikakui"),
  ("Mende_Kikakui", "Mende_Kikakui"),
  ("Merc", "Meroitic_Cursive"),
  ("Meroitic_Cursive", "Meroitic_Cursive"),
  ("Mero", "Meroitic_Hieroglyphs"),
  ("Meroitic_Hieroglyphs", "Meroitic_Hieroglyphs"),
  ("Mlym", "Malayalam"),
  ("Malayalam", "Malayalam"),
  ("Modi", "Modi"),
  ("Mong", "Mongolian"),
  ("Mongolian", "Mongolian"),
  ("Mroo", "Mro"),
  ("Mro", "Mro"),
  ("Mtei", "Meetei_Mayek"),
  ("Meetei_Mayek", "Meetei_Mayek"),
  ("Mult", "Multani"),
  ("Multani", "Multani"),
  ("Mymr", "Myanmar"),
  ("Myanmar", "Myanmar"),
  ("Nagm", "Nag_Mundari"),
  ("Nag_Mundari", "Nag_Mundari"),
  ("Nand", "Nandinagari"),
  ("Nandinagari", "Nandinagari"),
  ("Narb", "Old_North_Arabian"),
  ("Old_North_Arabian", "Old_North_Arabian"),
  ("Nbat", "Nabataean"),
  ("Nabataean", "Nabataean"),
  ("Newa", "Newa"),
  ("Nkoo", "Nko"),
  ("Nko", "Nko"),
  ("Nshu", "Nushu"),
  ("Nushu", "Nushu"),
  ("Ogam", "Ogham"),
  ("Ogham", "Ogham"),
  ("Olck", "Ol_Chiki"),
  ("Ol_Chiki", "Ol_Chiki"),
  ("Orkh", "Old_Turkic"),
  ("Old_Turkic", "Old_Turkic"),
  ("Orya", "Oriya"),
  ("Oriya", "Oriya"),
  ("Osge", "Osage"),
  ("Osage", "Osage"),
  ("Osma", "Osmanya"),
  ("Osmanya", "Osmanya"),
  ("Ougr", "Old_Uyghur"),
  ("Old_Uyghur", "Old_Uyghur"),
  ("Palm", "Palmyrene"),
  ("Palmyrene", "Palmyrene"),
  ("Pauc", "Pau_Cin_Hau"),
  ("Pau_Cin_Hau", "Pau_Cin_Hau"),
  ("Perm", "Old_Permic"),
  ("Old_Permic", "Old_Permic"),
  ("Phag", "Phags_Pa"),
  ("Phags_Pa", "Phags_Pa"),
  ("Phli", "Inscriptional_Pahlavi"),
  ("Inscriptional_Pahlavi", "Inscriptional_Pahlavi"),
  ("Phlp", "Psalter_Pahlavi"),
  ("Psalter_Pahlavi", "Psalter_Pahlavi"),
  ("Phnx", "Phoenician"),
  ("Phoenician", "Phoenician"),
  ("Plrd", "Miao"),
  ("Miao", "Miao"),
  ("Prti", "Inscriptional_Parthian"),
  ("Inscriptional_Parthian", "Inscriptional_Parthian"),
  ("Rjng", "Rejang"),
  ("Rejang", "Rejang"),
  ("Rohg", "Hanifi_Rohingya"),
  ("Hanifi_Rohingya", "Hanifi_Rohingya"),
  ("Runr", "Runic"),
  ("Runic", "Runic"),
  ("Samr", "Samaritan"),
  ("Samaritan", "Samaritan"),
  ("Sarb", "Old_South_Arabian"),
  ("Old_South_Arabian", "Old_South_Arabian"),
  ("Saur", "Saurashtra"),
  ("Saurashtra", "Saurashtra"),
  ("Sgnw", "SignWriting"),
  ("SignWriting", "SignWriting"),
  ("Shaw", "Shavian"),
  ("Shavian", "Shavian"),
  ("Shrd", "Sharada"),
  ("Sharada", "Sharada"),
  ("Sidd", "Siddham"),
  ("Siddham", "Siddham"),
  ("Sind", "Khudawadi"),
  ("Khudawadi", "Khudawadi"),
  ("Sinh", "Sinhala"),
  ("Sinhala", "Sinhala"),
  ("Sogd", "Sogdian"),
  ("Sogdian", "Sogdian"),
  ("Sogo", "Old_Sogdian"),
  ("Old_Sogdian", "Old_Sogdian"),
  ("Sora", "Sora_Sompeng"),
  ("Sora_Sompeng", "Sora_Sompeng"),
  ("Soyo", "Soyombo"),
  ("Soyombo", "Soyombo"),
  ("Sund", "Sundanese"),
  ("Sundanese", "Sundanese"),
  ("Sylo", "Syloti_Nagri"),
  ("Syloti_Nagri", "Syloti_Nagri"),
  ("Syrc", "Syriac"),
  ("Syriac", "Syriac"),
  ("Tagb", "Tagbanwa"),
  ("Tagbanwa", "Tagbanwa"),
  ("Takr", "Takri"),
  ("Takri", "Takri"),
  ("Tale", "Tai_Le"),
  ("Tai_Le", "Tai_Le"),
  ("Talu", "New_Tai_Lue"),
  ("New_Tai_Lue", "New_Tai_Lue"),
  ("Taml", "Tamil"),
  ("Tamil", "Tamil"),
  ("Tang", "Tangut"),
  ("Tangut", "Tangut"),
  ("Tavt", "Tai_Viet"),
  ("Tai_Viet", "Tai_Viet"),
  ("Telu", "Telugu"),
  ("Telugu", "Telugu"),
  ("Tfng", "Tifinagh"),
  ("Tifinagh", "Tifinagh"),
  ("Tglg", "Tagalog"),
  ("Tagalog", "Tagalog"),
  ("Thaa", "Thaana"),
  ("Thaana", "Thaana"),
  ("Thai", "Thai"),
  ("Tibt", "Tibetan"),
  ("Tibetan", "Tibetan"),
  ("Tirh", "Tirhuta"),
  ("Tirhuta", "Tirhuta"),
  ("Tnsa", "Tangsa"),
  ("Tangsa", "Tangsa"),
  ("Toto", "Toto"),
  ("Ugar", "Ugaritic"),
  ("Ugaritic", "Ugaritic"),
  ("Vaii", "Vai"),
  ("Vai", "Vai"),
  ("Vith", "Vithkuqi"),
  ("Vithkuqi", "Vithkuqi"),
  ("Wara", "Warang_Citi"),
  ("Warang_Citi", "Warang_Citi"),
  ("Wcho", "Wancho"),
  ("Wancho", "Wancho"),
  ("Xpeo", "Old_Persian"),
  ("Old_Persian", "Old_Persian"),
  ("Xsux", "Cuneiform"),
  ("Cuneiform", "Cuneiform"),
  ("Yezi", "Yezidi"),
  ("Yezidi", "Yezidi"),
  ("Yiii", "Yi"),
  ("Yi", "Yi"),
  ("Zanb", "Zanabazar_Square"),
  ("Zanabazar_Square", "Zanabazar_Square"),
  ("Zinh", "Inherited"),
  ("Inherited", "Inherited"),
  ("Qaai", "Inherited"),
  ("Zyyy", "Common"),
  ("Common", "Common"),
  ("Zzzz", "Unknown"),
  ("Unknown", "Unknown"),
  ("Gara", "Garay"),
  ("Garay", "Garay"),
  ("Gukh", "Gurung_Khema"),
  ("Gurung_Khema", "Gurung_Khema"),
  ("Krai", "Kirat_Rai"),
  ("Kirat_Rai", "Kirat_Rai"),
  ("Onao", "Ol_Onal"),
  ("Ol_Onal", "Ol_Onal"),
  ("Sunu", "Sunuwar"),
  ("Sunuwar", "Sunuwar"),
  ("Todr", "Todhri"),
  ("Todhri", "Todhri"),
  ("Tutg", "Tulu_Tigalari"),
  ("Tulu_Tigalari", "Tulu_Tigalari")]

/-- Each alias of a version of assignment, with its long name. -/
def ageAliases : List (String × String) := [
  ("1.1", "V1_1"),
  ("V1_1", "V1_1"),
  ("10.0", "V10_0"),
  ("V10_0", "V10_0"),
  ("11.0", "V11_0"),
  ("V11_0", "V11_0"),
  ("12.0", "V12_0"),
  ("V12_0", "V12_0"),
  ("12.1", "V12_1"),
  ("V12_1", "V12_1"),
  ("13.0", "V13_0"),
  ("V13_0", "V13_0"),
  ("14.0", "V14_0"),
  ("V14_0", "V14_0"),
  ("15.0", "V15_0"),
  ("V15_0", "V15_0"),
  ("2.0", "V2_0"),
  ("V2_0", "V2_0"),
  ("2.1", "V2_1"),
  ("V2_1", "V2_1"),
  ("3.0", "V3_0"),
  ("V3_0", "V3_0"),
  ("3.1", "V3_1"),
  ("V3_1", "V3_1"),
  ("3.2", "V3_2"),
  ("V3_2", "V3_2"),
  ("4.0", "V4_0"),
  ("V4_0", "V4_0"),
  ("4.1", "V4_1"),
  ("V4_1", "V4_1"),
  ("5.0", "V5_0"),
  ("V5_0", "V5_0"),
  ("5.1", "V5_1"),
  ("V5_1", "V5_1"),
  ("5.2", "V5_2"),
  ("V5_2", "V5_2"),
  ("6.0", "V6_0"),
  ("V6_0", "V6_0"),
  ("6.1", "V6_1"),
  ("V6_1", "V6_1"),
  ("6.2", "V6_2"),
  ("V6_2", "V6_2"),
  ("6.3", "V6_3"),
  ("V6_3", "V6_3"),
  ("7.0", "V7_0"),
  ("V7_0", "V7_0"),
  ("8.0", "V8_0"),
  ("V8_0", "V8_0"),
  ("9.0", "V9_0"),
  ("V9_0", "V9_0"),
  ("NA", "Unassigned"),
  ("Unassigned", "Unassigned"),
  ("15.1", "V15_1"),
  ("V15_1", "V15_1"),
  ("16.0", "V16_0"),
  ("V16_0", "V16_0")]

/-- Each alias of a grapheme cluster break value, with its long name. -/
def graphemeClusterBreakAliases : List (String × String) := [
  ("CN", "Control"),
  ("Control", "Control"),
  ("CR", "CR"),
  ("EB", "E_Base"),
  ("E_Base", "E_Base"),
  ("EBG", "E_Base_GAZ"),
  ("E_Base_GAZ", "E_Base_GAZ"),
  ("EM", "E_Modifier"),
  ("E_Modifier", "E_Modifier"),
  ("EX", "Extend"),
  ("Extend", "Extend"),
  ("GAZ", "Glue_After_Zwj"),
  ("Glue_After_Zwj", "Glue_After_Zwj"),
  ("L", "L"),
  ("LF", "LF"),
  ("LV", "LV"),
  ("LVT", "LVT"),
  ("PP", "Prepend"),
  ("Prepend", "Prepend"),
  ("RI", "Regional_Indicator"),
  ("Regional_Indicator", "Regional_Indicator"),
  ("SM", "SpacingMark"),
  ("SpacingMark", "SpacingMark"),
  ("T", "T"),
  ("V", "V"),
  ("XX", "Other"),
  ("Other", "Other"),
  ("ZWJ", "ZWJ")]

/-- Each alias of a word break value, with its long name. -/
def wordBreakAliases : List (String × String) := [
  ("CR", "CR"),
  ("DQ", "Double_Quote"),
  ("Double_Quote", "Double_Quote"),
  ("EB", "E_Base"),
  ("E_Base", "E_Base"),
  ("EBG", "E_Base_GAZ"),
  ("E_Base_GAZ", "E_Base_GAZ"),
  ("EM", "E_Modifier"),
  ("E_Modifier", "E_Modifier"),
  ("EX", "ExtendNumLet"),
  ("ExtendNumLet", "ExtendNumLet"),
  ("Extend", "Extend"),
  ("FO", "Format"),
  ("Format", "Format"),
  ("GAZ", "Glue_After_Zwj"),
  ("Glue_After_Zwj", "Glue_After_Zwj"),
  ("HL", "Hebrew_Letter"),
  ("Hebrew_Letter", "Hebrew_Letter"),
  ("KA", "Katakana"),
  ("Katakana", "Katakana"),
  ("LE", "ALetter"),
  ("ALetter", "ALetter"),
  ("LF", "LF"),
  ("MB", "MidNumLet"),
  ("MidNumLet", "MidNumLet"),
  ("ML", "MidLetter"),
  ("MidLetter", "MidLetter"),
  ("MN", "MidNum"),
  ("MidNum", "MidNum"),
  ("NL", "Newline"),
  ("Newline", "Newline"),
  ("NU", "Numeric"),
  ("Numeric", "Numeric"),
  ("RI", "Regional_Indicator"),
  ("Regional_Indicator", "Regional_Indicator"),
  ("SQ", "Single_Quote"),
  ("Single_Quote", "Single_Quote"),
  ("WSegSpace", "WSegSpace"),
  ("XX", "Other"),
  ("Other", "Other"),
  ("ZWJ", "ZWJ")]

/-- Each alias of a sentence break value, with its long name. -/
def sentenceBreakAliases : List (String × String) := [
  ("AT", "ATerm"),
  ("ATerm", "ATerm"),
  ("CL", "Close"),
  ("Close", "Close"),
  ("CR", "CR"),
  ("EX", "Extend"),
  ("Extend", "Extend"),
  ("FO", "Format"),
  ("Format", "Format"),
  ("LE", "OLetter"),
  ("OLetter", "OLetter"),
  ("LF", "LF"),
  ("LO", "Lower"),
  ("Lower", "Lower"),
  ("NU", "Numeric"),
  ("Numeric", "Numeric"),
  ("SC", "SContinue"),
  ("SContinue", "SContinue"),
  ("SE", "Sep"),
  ("Sep", "Sep"),
  ("SP", "Sp"),
  ("Sp", "Sp"),
  ("ST", "STerm"),
  ("STerm", "STerm"),
  ("UP", "Upper"),
  ("Upper", "Upper"),
  ("XX", "Other"),
  ("Other", "Other")]

/-- The long names of the scripts, in the order of the script table. -/
def scriptNames : List String := [
  "Adlam", "Ahom", "Anatolian_Hieroglyphs", "Arabic", "Armenian", "Avestan", "Balinese", "Bamum",
  "Bassa_Vah", "Batak", "Bengali", "Bhaiksuki", "Bopomofo", "Brahmi", "Braille", "Buginese",
  "Buhid", "Canadian_Aboriginal", "Carian", "Caucasian_Albanian", "Chakma", "Cham", "Cherokee",
  "Chorasmian", "Common", "Coptic", "Cuneiform", "Cypriot", "Cypro_Minoan", "Cyrillic",
  "Deseret", "Devanagari", "Dives_Akuru", "Dogra", "Duployan", "Egyptian_Hieroglyphs", "Elbasan",
  "Elymaic", "Ethiopic", "Garay", "Georgian", "Glagolitic", "Gothic", "Grantha", "Greek",
  "Gujarati", "Gunjala_Gondi", "Gurmukhi", "Gurung_Khema", "Han", "Hangul", "Hanifi_Rohingya",
  "Hanunoo", "Hatran", "Hebrew", "Hiragana", "Imperial_Aramaic", "Inherited",
  "Inscriptional_Pahlavi", "Inscriptional_Parthian", "Javanese", "Kaithi", "Kannada", "Katakana",
  "Katakana_Or_Hiragana", "Kawi", "Kayah_Li", "Kharoshthi", "Khitan_Small_Script", "Khmer",
  "Khojki", "Khudawadi", "Kirat_Rai", "Lao", "Latin", "Lepcha", "Limbu", "Linear_A", "Linear_B",
  "Lisu", "Lycian", "Lydian", "Mahajani", "Makasar", "Malayalam", "Mandaic", "Manichaean",
  "Marchen", "Masaram_Gondi", "Medefaidrin", "Meetei_Mayek", "Mende_Kikakui", "Meroitic_Cursive",
  "Meroitic_Hieroglyphs", "Miao", "Modi", "Mongolian", "Mro", "Multani", "Myanmar", "Nabataean",
  "Nag_Mundari", "Nandinagari", "New_Tai_Lue", "Newa", "Nko", "Nushu", "Nyiakeng_Puachue_Hmong",
  "Ogham", "Ol_Chiki", "Ol_Onal", "Old_Hungarian", "Old_Italic", "Old_North_Arabian",
  "Old_Permic", "Old_Persian", "Old_Sogdian", "Old_South_Arabian", "Old_Turkic", "Old_Uyghur",
  "Oriya", "Osage", "Osmanya", "Pahawh_Hmong", "Palmyrene", "Pau_Cin_Hau", "Phags_Pa",
  "Phoenician", "Psalter_Pahlavi", "Rejang", "Runic", "Samaritan", "Saurashtra", "Sharada",
  "Shavian", "Siddham", "SignWriting", "Sinhala", "Sogdian", "Sora_Sompeng", "Soyombo",
  "Sundanese", "Sunuwar", "Syloti_Nagri", "Syriac", "Tagalog", "Tagbanwa", "Tai_Le", "Tai_Tham",
  "Tai_Viet", "Takri", "Tamil", "Tangsa", "Tangut", "Telugu", "Thaana", "Thai", "Tibetan",
  "Tifinagh", "Tirhuta", "Todhri", "Toto", "Tulu_Tigalari", "Ugaritic", "Unknown", "Vai",
  "Vithkuqi", "Wancho", "Warang_Citi", "Yezidi", "Yi", "Zanabazar_Square"]

/-- The versions of assignment, oldest first, in the order of the age table. -/
def ageNames : List String := [
  "V1_1", "V2_0", "V2_1", "V3_0", "V3_1", "V3_2", "V4_0", "V4_1", "V5_0", "V5_1", "V5_2", "V6_0",
  "V6_1", "V6_2", "V6_3", "V7_0", "V8_0", "V9_0", "V10_0", "V11_0", "V12_0", "V12_1", "V13_0",
  "V14_0", "V15_0", "V15_1", "V16_0"]

/-- The grapheme cluster break values that some code point has, in table order. -/
def graphemeClusterBreakNames : List String := [
  "CR", "Control", "Extend", "L", "LF", "LV", "LVT", "Prepend", "Regional_Indicator",
  "SpacingMark", "T", "V", "ZWJ"]

/-- The word break values that some code point has, in table order. -/
def wordBreakNames : List String := [
  "ALetter", "CR", "Double_Quote", "Extend", "ExtendNumLet", "Format", "Hebrew_Letter",
  "Katakana", "LF", "MidLetter", "MidNum", "MidNumLet", "Newline", "Numeric",
  "Regional_Indicator", "Single_Quote", "WSegSpace", "ZWJ"]

/-- The sentence break values that some code point has, in table order. -/
def sentenceBreakNames : List String := [
  "ATerm", "CR", "Close", "Extend", "Format", "LF", "Lower", "Numeric", "OLetter", "SContinue",
  "STerm", "Sep", "Sp", "Upper"]

end DataQuality.Unicode.Tables
