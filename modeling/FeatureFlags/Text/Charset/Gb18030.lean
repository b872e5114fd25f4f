import FeatureFlags.Text.Charset.Gbk

/-!
# `FeatureFlags.Text.Charset.Gb18030` — the complete set of Chinese characters

It adds a few signs to the extended set, leaves places to the user, and gives every other character
a code of four bytes.
-/

namespace FeatureFlags

namespace Charset

/-- The characters by the two bytes of their codes, apart from those of the extended set. -/
def gb18030Signs : Table :=
  .ofText "A2E3:€ A8BF:ǹ A989:〾⿰⿱⿲⿳⿴⿵⿶⿷⿸⿹⿺⿻ FE50:⺁���⺄㑳㑇⺈⺋�㖞㘚㘎⺌⺗㥮㤘�㧏㧟㩳㧐��㭎㱮㳠⺧��⺪䁖䅟⺮䌷⺳⺶⺷�䎱
    FE78:䎬⺻䏝䓖䙡䙌��䜣䜩䝼䞍⻊䥇䥺䥽䦂䦃䦅䦆䦟䦛䦷䦶��䲣䲟䲠䲡䱷䲢䴓䴔䴕䴖䴗䴘䴙䶮"

/-- Places between characters that are left to the user. -/
def gb18030Private : List Table.Range :=
  Table.ranges "A2AB..A2B0=E766 A2E4=E76D A2EF..A2F0=E76E A2FD..A2FE=E770 A4F4..A4FE=E772 A5F7..A5FE=E77D
    A6B9..A6C0=E785 A6D9..A6DF=E78D A6EC..A6ED=E794 A6F3=E796 A6F6..A6FE=E797 A7C2..A7D0=E7A0
    A7F2..A7FE=E7AF A896..A8A0=E7BC A8BC=E7C7 A8C1..A8C4=E7C9 A8EA..A8FE=E7CD A958=E7E2 A95B=E7E3
    A95D..A95F=E7E4 A997..A9A3=E7F4 A9F0..A9FE=E801 D7FA..D7FE=E810 FE51..FE53=E816 FE59=E81E
    FE61=E826 FE66..FE67=E82B FE6C..FE6D=E831 FE76=E83B FE7E=E843 FE90..FE91=E854 FEA0=E864"

/-- The characters with codes of four bytes below 0x10000, by the number of the code. -/
def gb18030Ranges : List Table.Range :=
  Table.ranges "0..23=80 24..25=A5 26..2C=A9 2D..31=B2 32..50=B8 51..58=D8 59..5E=E2 5F=EB 60..63=EE 64..66=F4
    67=F8 68=FB 69..6C=FD 6D..7D=102 7E..84=114 85..93=11C 94..AB=12C AC..AE=145 AF..B2=149
    B3..CF=14E D0..131=16C 132=1CF 133=1D1 134=1D3 135=1D5 136=1D7 137=1D9 138=1DB 139..154=1DD
    155..1AB=1FA 1AC..1BA=252 1BB..21F=262 220=2C8 221..22D=2CC 22E..2E4=2DA 2E5=3A2 2E6..2EC=3AA
    2ED=3C2 2EE..324=3CA 325..332=402 333=450 334..1EF1=452 1EF2..1EF3=2011 1EF4=2017
    1EF5..1EF6=201A 1EF7..1EFD=201E 1EFE..1F06=2027 1F07=2031 1F08=2034 1F09..1F0D=2036
    1F0E..1F7D=203C 1F7E..1FD3=20AD 1FD4=2104 1FD5..1FD7=2106 1FD8..1FE3=210A 1FE4..1FED=2117
    1FEE..202B=2122 202C..202F=216C 2030..2045=217A 2046..2047=2194 2048..20B5=219A
    20B6..20BB=2209 20BC=2210 20BD..20BF=2212 20C0..20C3=2216 20C4..20C5=221B 20C6..20C7=2221
    20C8=2224 20C9=2226 20CA..20CB=222C 20CC..20D0=222F 20D1..20D5=2238 20D6..20DF=223E
    20E0..20E2=2249 20E3..20E7=224D 20E8..20F4=2253 20F5..20F6=2262 20F7..20FC=2268
    20FD..2121=2270 2122..2124=2296 2125..212F=229A 2130..2148=22A6 2149..219A=22C0
    219B..22E7=2313 22E8..22F1=246A 22F2..2355=249C 2356..2359=254C 235A..2366=2574
    2367..2369=2590 236A..2373=2596 2374..2383=25A2 2384..238B=25B4 238C..2393=25BE
    2394..2396=25C8 2397..2398=25CC 2399..23AA=25D0 23AB..23C9=25E6 23CA..23CB=2607
    23CC..2401=260A 2402=2641 2403..2C40=2643 2C41..2C42=2E82 2C43..2C45=2E85 2C46..2C47=2E89
    2C48..2C51=2E8D 2C52..2C60=2E98 2C61..2C62=2EA8 2C63..2C65=2EAB 2C66..2C69=2EAF
    2C6A..2C6B=2EB4 2C6C..2C6E=2EB8 2C6F..2C7C=2EBC 2C7D..2DA1=2ECB 2DA2..2DA5=2FFC 2DA6=3004
    2DA7..2DAB=3018 2DAC..2DAD=301F 2DAE..2DC1=302A 2DC2..2DC3=303F 2DC4..2DCA=3094
    2DCB..2DCC=309F 2DCD..2DD1=30F7 2DD2..2DD7=30FF 2DD8..2ECD=312A 2ECE..2ED4=322A
    2ED5..2F45=3232 2F46..302F=32A4 3030..303B=3390 303C..303D=339F 303E..305F=33A2
    3060..3068=33C5 3069..306A=33CF 306B..306C=33D3 306D..30DD=33D6 30DE..3108=3448
    3109..3232=3474 3233..32A1=359F 32A2..32AC=360F 32AD..35A9=361B 35AA..35FE=3919
    35FF..365E=396F 365F..366C=39D1 366D..36FF=39E0 3700..37D9=3A74 37DA..38F8=3B4F
    38F9..3969=3C6F 396A..3CDE=3CE1 3CDF..3DE6=4057 3DE7..3FBD=4160 3FBE..4031=4338
    4032..4035=43AD 4036..4060=43B2 4061..4158=43DE 4159..42CD=44D7 42CE..42E1=464D
    42E2..43A2=4662 43A3..43A7=4724 43A8..43F9=472A 43FA..4409=477D 440A..45C2=478E
    45C3..45F4=4948 45F5..45F6=497B 45F7..45FA=497E 45FB=4984 45FC..460F=4987 4610..4612=499C
    4613..4628=49A0 4629..48E7=49B8 48E8..490E=4C78 490F..497D=4CA4 497E..4A11=4D1A
    4A12..4A62=4DAF 4A63..82BC=9FA6 82BD=E76C 82BE=E7C8 82BF..82CB=E7E7 82CC=E815 82CD..82D1=E819
    82D2..82D8=E81F 82D9..82DC=E827 82DD..82E0=E82D 82E1..82E8=E833 82E9..82EF=E83C
    82F0..82FF=E844 8300..830D=E856 830E..93D4=E865 93D5..9420=F92D 9421..943B=F97A
    943C..948C=F996 948D..9495=F9E8 9496..94AF=F9F2 94B0=FA10 94B1=FA12 94B2..94B4=FA15
    94B5..94BA=FA19 94BB=FA22 94BC..94BD=FA25 94BE..98C3=FA2A 98C4=FE32 98C5..98C8=FE45 98C9=FE53
    98CA=FE58 98CB=FE67 98CC..9960=FE6C 9961..99E1=FF5F 99E2..99FB=FFE6"


end Charset

end FeatureFlags
