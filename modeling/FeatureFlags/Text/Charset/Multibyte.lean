import FeatureFlags.Text.Charset.Iso2022
import FeatureFlags.Text.Charset.Korean
import FeatureFlags.Text.Charset.SimplifiedChinese
import FeatureFlags.Text.Charset.TraditionalChinese

/-!
# `FeatureFlags.Text.Charset.Multibyte` — encodings of the languages of East Asia

The encodings in which characters have codes of several bytes, and their names.
-/

namespace FeatureFlags

namespace Charset

/-- An encoding in which characters have codes of several bytes. -/
inductive Multibyte where
  | korean
  | koreanUnified
  | koreanByLetters
  | koreanSwitching
  | simplifiedChinese
  | simplifiedChineseExtended
  | simplifiedChineseComplete
  | simplifiedChineseInAscii
  | traditionalChinese
  | traditionalChineseCodePage
  | hongKong
  | japanese
  | japaneseExtended (edition : Japanese.Edition)
  | shiftedJapanese
  | shiftedJapaneseExtended (edition : Japanese.Edition)
  | shiftedJapaneseCodePage
  | switchingJapanese
  | switchingJapanese1
  | switchingJapanese2
  | switchingJapaneseExtended (edition : Japanese.Edition)
  | switchingJapaneseKana
  deriving DecidableEq

namespace Multibyte

/-- The encodings by name. -/
def names : List (String × Multibyte) :=
  [("euc_kr", .korean), ("cp949", .koreanUnified), ("johab", .koreanByLetters),
    ("iso2022_kr", .koreanSwitching), ("gb2312", .simplifiedChinese),
    ("gbk", .simplifiedChineseExtended), ("gb18030", .simplifiedChineseComplete),
    ("hz", .simplifiedChineseInAscii), ("big5", .traditionalChinese),
    ("cp950", .traditionalChineseCodePage), ("big5hkscs", .hongKong), ("euc_jp", .japanese),
    ("euc_jisx0213", .japaneseExtended .of2000), ("euc_jis_2004", .japaneseExtended .of2004),
    ("shift_jis", .shiftedJapanese), ("shift_jisx0213", .shiftedJapaneseExtended .of2000),
    ("shift_jis_2004", .shiftedJapaneseExtended .of2004), ("cp932", .shiftedJapaneseCodePage),
    ("iso2022_jp", .switchingJapanese), ("iso2022_jp_1", .switchingJapanese1),
    ("iso2022_jp_2", .switchingJapanese2),
    ("iso2022_jp_3", .switchingJapaneseExtended .of2000),
    ("iso2022_jp_2004", .switchingJapaneseExtended .of2004),
    ("iso2022_jp_ext", .switchingJapaneseKana)]

/-- What bytes spell in an encoding that switches between sets. -/
def switching (v : Iso2022.Variant) (bytes : List Nat) : Spelling :=
  .ofSteps (Iso2022.step v) {} bytes

/-- What bytes spell. -/
def spelling : Multibyte → List Nat → Spelling
  | .korean => .ofChunks Korean.standard
  | .koreanUnified => .ofChunks Korean.unified
  | .koreanByLetters => .ofChunks Korean.byLetters
  | .koreanSwitching => switching .korean
  | .simplifiedChinese => .ofChunks SimplifiedChinese.simplified
  | .simplifiedChineseExtended => .ofChunks SimplifiedChinese.extended
  | .simplifiedChineseComplete => .ofChunks SimplifiedChinese.complete
  | .simplifiedChineseInAscii => .ofSteps SimplifiedChinese.inAscii false
  | .traditionalChinese => .ofChunks TraditionalChinese.common
  | .traditionalChineseCodePage => .ofChunks TraditionalChinese.codePage
  | .hongKong => .ofChunks TraditionalChinese.hongKong
  | .japanese => .ofChunks Japanese.standard
  | .japaneseExtended edition => .ofChunks (Japanese.extended edition)
  | .shiftedJapanese => .ofChunks Japanese.shiftedStandard
  | .shiftedJapaneseExtended edition => .ofChunks (Japanese.shiftedExtended edition)
  | .shiftedJapaneseCodePage => .ofChunks Japanese.codePage
  | .switchingJapanese => switching .japanese
  | .switchingJapanese1 => switching .japanese1
  | .switchingJapanese2 => switching .japanese2
  | .switchingJapaneseExtended .of2000 => switching (.japaneseExtended .of2000 0x4F)
  | .switchingJapaneseExtended .of2004 => switching (.japaneseExtended .of2004 0x51)
  | .switchingJapaneseKana => switching .japaneseKana

/-- How many bytes at the end may wait for the rest of a character. -/
def maxUnfinished : Nat := 8

end Multibyte

end Charset

end FeatureFlags
