import CursorParsing.Locale.Code
import CursorParsing.Locale.Reading

/-!
# A library of locales

The locales whose formats are at hand, by their codes.
-/

namespace CursorParsing

/-- Formats and the codes of the locales that write numbers in them. -/
def localeFormats : List (NumberFormat × List String) :=
  [
    (.english,
      ["en", "en_150", "en_GB_OXENDICT", "en_US", "fil", "ja_JP", "zh_Hans_CN", "zh_Hant_TW"]),
    (⟨',', '.', ['-'], some ⟨3, 3⟩, 3⟩,
      ["ca_ES_VALENCIA", "de", "de_AT", "de_DE", "es_ES", "it_IT", "pt_BR", "sr_Cyrl_RS",
        "sr_Latn_RS"]),
    (.french,
      ["fr", "fr_FR"]),
    (⟨',', '\u00a0', ['-'], some ⟨3, 3⟩, 3⟩,
      ["af", "cs_CZ", "fr_CA", "lv_LV", "pl_PL", "pt_PT", "ru"]),
    (⟨',', '\u00a0', ['\u2212'], some ⟨3, 3⟩, 3⟩,
      ["fi", "nb_NO", "no", "sv_SE"]),
    (.arabic,
      ["ar_EG", "he", "he_IL"]),
    (⟨'.', ',', ['\u200e', '\u2212'], some ⟨3, 3⟩, 3⟩,
      ["fa_IR"]),
    (⟨'.', '\u2019', ['-'], some ⟨3, 3⟩, 3⟩,
      ["de_CH", "it_CH"]),
    (.indian,
      ["bn_BD", "en_IN", "hi_IN"]),
    (⟨'\u066b', '\u060c', ['-'], some ⟨3, 3⟩, 3⟩,
      ["bgn"]),
    (⟨',', '\u00a0', ['-'], some ⟨2, 2⟩, 3⟩,
      ["tok"]),
    (⟨'.', ',', ['-'], none, 6⟩,
      ["en_US_POSIX"]),
    (⟨',', '.', ['\u2212'], some ⟨3, 3⟩, 3⟩,
      ["hr"]),
    (⟨'.', '\u2e41', ['-'], some ⟨3, 3⟩, 3⟩,
      ["ff_Adlm"]),
    (⟨'.', '\u00a0', ['-'], some ⟨3, 3⟩, 3⟩,
      ["xh_ZA"]),
    (⟨',', '.', ['\u200e', '-'], some ⟨3, 3⟩, 3⟩,
      ["ar_DZ"]),
    (⟨',', '.', ['\u200e', '\u2212'], some ⟨3, 3⟩, 3⟩,
      ["ps"]),
    (⟨'.', '\u2019', ['\u2212'], some ⟨3, 3⟩, 3⟩,
      ["rm"]),
    (⟨'.', '\u060c', ['-'], some ⟨3, 3⟩, 3⟩,
      ["ks"])
  ]

/-- Codes that stand for others: languages under an older name, and territories whose language or
script goes without saying. -/
def localeAliases : List (String × String) :=
  [("iw", "he"), ("tl", "fil"), ("sr_RS", "sr_Cyrl_RS"), ("und_AT", "de_AT"),
    ("zh_CN", "zh_Hans_CN"), ("zh_TW", "zh_Hant_TW")]

/-- The code under which a locale is listed. -/
def listedCode? (code : String) : Option String :=
  (LocaleCode.parse? code.toList).map fun parsed =>
    let identifier := String.ofList parsed.identifier
    (localeAliases.lookup identifier).getD identifier

def NumberFormat.ofLocale? (code : String) : Option NumberFormat := do
  let listed ← listedCode? code
  let entry ← localeFormats.find? fun entry => entry.2.contains listed
  return entry.1

/-- The locales of the table, which read as their formats write. -/
def builtInLocales : LocaleLibrary := fun code =>
  (NumberFormat.ofLocale? code).map (·.builtIn)

end CursorParsing
