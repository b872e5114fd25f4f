import FeatureFlags.Text.Charset.Gb2312

/-!
# `FeatureFlags.Text.Charset.Gbk` — the extended set of Chinese characters

It has all the ideographs of the first block of ideographs: those that the simplified set lacks
follow one another in the order of their code points.
-/

namespace FeatureFlags

namespace Charset

/-- The characters by the two bytes of their codes, apart from those of the simplified set and from
the ideographs that follow one another. -/
def gbkSigns : Table :=
  .ofText "A1A4:· A1AA:— A2A1:ⅰⅱⅲⅳⅴⅵⅶⅷⅸⅹ A6E0:︵︶︹︺︿﹀︽︾﹁﹂﹃﹄��︻︼︷︸︱�︳︴
    A840:ˊˋ˙–―‥‵℅℉↖↗↘↙∕∟∣≒≦≧⊿═║╒╓╔╕╖╗╘╙╚╛╜╝╞╟╠╡╢╣╤╥╦
    A86B:╧╨╩╪╫╬╭╮╯╰╱╲╳▁▂▃▄▅▆▇�█▉▊▋▌▍▎▏▓▔▕▼▽◢◣◤◥☉⊕〒〝〞 A8BB:ɑ�ńň�ɡ
    A940:〡〢〣〤〥〦〧〨〩㊣㎎㎏㎜㎝㎞㎡㏄㏎㏑㏒㏕︰￢￤�℡㈱�‐���ー゛゜ヽヾ A965:〆ゝゞ﹉﹊﹋﹌﹍﹎﹏﹐﹑﹒﹔﹕﹖﹗﹙﹚﹛﹜﹝﹞﹟﹠﹡�﹢﹣﹤﹥﹦﹨﹩﹪﹫ A996:〇
    FD9C:郎凉秊裏隣 FE40:兀嗀﨎﨏﨑﨓﨔礼﨟蘒﨡﨣﨤﨧﨨﨩"

/-- The ideographs of the first block of ideographs that the simplified set lacks, in order. -/
def gbkIdeographs : Array Nat :=
  let taken := gb2312.codes.mergeSort
  (Table.without ((List.range 0x51A6).map (0x4E00 + ·)) taken).toArray


end Charset

end FeatureFlags
