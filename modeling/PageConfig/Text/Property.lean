import PageConfig.Text.Blank
import PageConfig.Text.Category
import PageConfig.Text.Ranges

/-!
# Character properties

The properties that patterns can ask for by name. Most are made of general
categories and of ranges besides.
-/

set_option autoImplicit false

namespace PageConfig

/-- The names of each property, the categories whose characters all have it,
and the other characters that have it. -/
def propertyTable : List (List String × List String × List String) := [
  (["alpha", "alphabetic"], ["L", "Nl"], [
    "837 1 618 14 1 1 1 2 1 2 1 1 72 11 48 13 1 7 16 1 101 7 4 4 2 2 4 1 35 1 30 16 102 11 101 2",
    "3 9 1 3 1 4 167 12 3 7 6 20 54 2 2 15 1 2 5 3 10 2 29 3 58 7 2 2 2 2 10 1 10 2 29 3 58 5 4 2",
    "2 2 4 1 30 2 3 1 11 3 58 8 1 3 1 2 21 2 22 3 4 3 58 7 2 2 2 2 9 2 10 2 30 1 59 5 3 3 1 3 10",
    "1 40 5 57 7 1 3 1 3 8 2 11 2 29 3 58 7 1 3 1 3 8 2 11 2 15 1 12 4 58 7 1 3 1 3 10 1 10 2 29",
    "3 75 6 1 1 1 8 18 2 61 1 2 7 18 1 99 1 2 6 1 2 16 1 163 19 9 11 1 36 110 12 1 1 2 4 23 4 4 3",
    "1 3 2 7 3 4 13 12 1 1 10 4 1652 2 30 2 30 2 30 2 66 19 188 2 34 1 118 12 4 9 222 5 57 10 2",
    "20 74 2 11 3 49 5 48 15 60 3 30 9 2 2 57 11 50 19 432 14 1729 52 2294 32 30836 8 34 2 354 1",
    "8 1 23 5 88 2 50 16 1 1 57 1 38 5 28 12 45 4 48 12 37 1 67 14 12 1 8 2 45 3 50 1 1 3 2 2 5 1",
    "44 5 5 1 237 8 20275 1 2135 5 1670 3 1 2 5 4 788 4 387 2 339 3 53 14 45 2 11 3 45 9 9 1 61 3",
    "36 12 18 2 57 3 48 13 14 2 92 9 2 1 6 1 2 1 157 10 23 4 58 7 2 2 2 2 10 1 10 2 209 13 1 3",
    "106 18 237 7 2 7 29 2 82 15 1 1 106 11 103 14 257 13 247 6 1 2 2 2 3 1 1 1 142 7 2 6 4 1 28",
    "10 42 5 1 4 18 11 46 14 407 8 1 7 83 22 1 14 122 6 3 1 1 2 1 3 1 1 3 1 66 5 1 2 1 4 348 4 9",
    "2 1 1 48 7 3 3 20494 1 1 55 7 4 93 2 19628 1 9057 7 1 17 2 7 1 2 1 5 100 1 2231 1 2024 26 6",
    "26 6 26"]),
  (["lower", "lowercase"], ["Ll"], [
    "170 1 15 1 501 9 7 2 30 5 96 1 52 1 3457 1 3119 63 13 1 34 37 689 1 13 1 16 13 211 16 848 26",
    "1938 2 31262 2 210 1 129 3 3 2 866 4 9 1 23574 1 2 3 1 42 1 9 55413 62"]),
  (["upper", "uppercase"], ["Lu"], ["8544 16 838 26 117856 26 6 26 6 26"]),
  (["emoji"], [], [
    "35 1 6 1 5 10 111 1 4 1 8077 1 12 1 216 1 22 1 90 6 15 2 367 2 12 1 166 1 25 11 4 3 199 1",
    "231 2 10 1 9 1 58 4 1 5 9 1 2 1 2 2 2 1 4 1 2 1 1 2 2 1 3 1 3 2 8 3 5 1 1 1 5 12 11 2 2 1 1",
    "2 1 1 18 1 2 2 18 6 1 1 1 2 3 2 5 1 2 2 4 2 11 2 5 2 2 1 5 2 1 1 1 2 20 2 5 6 1 4 2 1 4 1 2",
    "1 2 6 1 1 2 1 1 1 1 1 6 1 3 1 6 1 10 2 15 1 2 1 4 1 1 1 4 3 1 1 11 2 48 3 9 1 14 1 14 1 372",
    "2 463 3 19 2 51 1 4 1 1242 1 12 1 601 1 1 1 114026 1 202 1 160 2 12 2 14 1 2 10 75 26 1 2 23",
    "1 20 1 2 9 21 2 174 34 2 112 2 2 1 3 2 83 2 3 1 263 1 63 11 6 1 24 7 2 2 8 12 1 2 4 2 1 4 2",
    "13 2 2 1 8 2 9 1 5 3 12 3 8 3 2 1 1 1 4 1 6 1 3 1 6 86 48 70 5 8 2 3 4 10 3 1 1 2 3 1 2 10",
    "227 12 4 1 283 47 1 10 1 185 112 13 3 9 7 46 1 7 8 14 4 9 7 9"]),
  (["epres", "emojipresentation"], [], [
    "8986 2 205 4 3 1 2 1 521 2 21 2 50 12 43 1 19 1 13 1 8 2 17 2 5 2 8 1 5 1 21 1 7 2 1 1 4 1 2",
    "1 7 1 4 2 28 1 35 1 1 1 4 3 1 1 61 3 24 1 14 1 859 2 51 1 4 1 115886 1 202 1 190 1 2 10 75",
    "26 1 1 24 1 20 1 2 5 1 3 21 2 174 33 12 9 1 70 1 22 12 43 4 5 12 17 3 1 3 71 1 1 1 187 2 63",
    "13 4 1 24 18 1 26 2 13 1 86 85 48 70 6 1 3 3 2 3 4 4 11 2 7 9 227 12 4 1 283 47 1 10 1 185",
    "112 13 3 9 7 46 1 7 8 14 4 9 7 9"]),
  (["emod", "emojimodifier"], [], ["127995 5"]),
  (["ebase", "emojimodifierbase"], [], [
    "9757 1 219 1 16 4 117879 1 60 3 2 1 2 3 117 2 2 11 21 19 3 1 4 3 1 3 7 1 1 1 24 1 201 2 4 1",
    "21 1 4 2 174 3 3 5 83 1 16 3 9 1 11 1 575 1 2 1 8 8 6 1 9 10 2 3 56 1 61 2 1 2 1 1 17 3 1 13",
    "229 3 42 9"]),
  (["ecomp", "emojicomponent"], [],
    ["35 1 6 1 5 10 8147 1 213 1 56619 1 62422 26 507 5 1456 4 788076 96"]),
  (["extpict", "extendedpictographic"], [], [
    "169 1 4 1 8077 1 12 1 216 1 22 1 90 6 15 2 367 2 12 1 95 1 70 1 25 11 4 3 199 1 231 2 10 1 9",
    "1 58 4 1 6 1 12 1 114 10 118 2 11 1 1 1 1 6 1 3 1 6 1 10 2 15 1 2 1 4 1 1 1 4 3 1 1 11 5 45",
    "3 9 1 14 1 14 1 372 2 463 3 19 2 51 1 4 1 1242 1 12 1 601 1 1 1 114022 256 13 3 31 1 60 6 12",
    "2 14 1 2 10 18 57 27 15 10 1 20 1 2 9 1 4 9 434 5 318 8 266 48 128 116 12 85 43 12 4 56 8 10",
    "6 40 8 30 82 12 47 1 10 1 441 256 1022"]),
  (["ideo", "ideographic"], [], [
    "12294 2 25 9 14 3 965 6592 64 20992 22784 366 2 106 29962 1 27 6136 8 1238 42 9 9319 396",
    "19716 42720 32 4154 6 222 2 5762 14 7473 3103 542 1506 4939 5 4192"]),
  (["uideo", "unifiedideograph"], [], [
    "13312 6592 64 20992 23054 2 1 1 1 2 10 1 1 1 1 2 2 3 67030 42720 32 4154 6 222 2 5762 14",
    "7473 5151 4939 5 4192"]),
  (["hex", "hexdigit"], [], ["48 10 7 6 26 6 65193 10 7 6 26 6"]),
  (["ahex", "asciihexdigit"], [], ["48 10 7 6 26 6"]),
  (["dash"], [], [
    "45 1 1372 1 51 1 3649 1 1029 1 2057 6 61 1 39 1 15 1 390 1 3076 1 2 1 31 2 4 1 28 1 446 1 19",
    "1 111 1 52624 2 37 1 10 1 169 1 3999 1"]),
  (["qmark", "quotationmark"], [],
    ["34 1 4 1 131 1 15 1 8028 8 25 2 3591 1 457 4 13 3 52769 4 189 1 4 1 90 2"]),
  (["cased"], ["Lu", "Ll", "Lt"], [
    "170 1 15 1 501 9 7 2 30 5 96 1 52 1 3457 1 3119 63 13 1 34 37 689 1 13 1 16 13 195 32 822 52",
    "1938 2 31262 2 210 1 129 3 3 2 866 4 9 1 23574 1 2 3 1 42 1 9 55413 62 4290 26 6 26 6 26"]),
  (["math"], ["Sm"], [
    "94 1 881 3 2 1 26 2 2 2 7200 1 27 3 11 1 32 4 24 2 14 2 65 13 4 1 3 2 4 5 18 1 4 1 2 10 1 1",
    "3 5 6 1 3 2 2 2 1 3 1 6 3 4 5 5 75 5 2 4 1 2 1 2 1 1 1 5 2 2 4 2 4 18 2 2 1 1 1 7 1 1 6 2",
    "290 4 168 2 1 1 24 1 17 1 445 2 12 9 5 5 5 2 2 2 3 5 14 1 1 1 2 6 24 2 57 1 1 1 29 4 9 2 342",
    "2 31 10 403 22 63 4 32 2 54371 1 1 1 4 1 211 1 1 1 54465 85 1 71 1 2 2 1 2 2 2 4 1 12 1 1 1",
    "7 1 65 1 4 2 8 1 7 1 28 1 4 1 5 1 1 3 7 1 340 2 25 1 25 1 31 1 25 1 31 1 25 1 31 1 25 1 31 1",
    "25 1 8 2 50 5632 4 1 27 1 2 1 1 2 1 1 10 1 4 1 1 1 1 6 1 4 1 1 1 1 1 1 3 1 2 1 1 2 1 1 1 1 1",
    "1 1 1 1 1 2 1 1 2 4 1 7 1 4 1 4 1 1 1 10 1 17 5 3 1 5 1 17"]),
  (["joinc", "joincontrol"], [], ["8204 2"]),
  (["ri", "regionalindicator"], [], ["127462 26"]),
  (["vs", "variationselector"], [], ["6155 3 1 1 58864 16 852720 240"]),
  (["radical"], [], ["11904 26 1 89 12 214"])]

def characterProperty? (name : String) : Option (Char → Bool) :=
  if ["wspace", "whitespace", "space"].contains name then some isBlank
  else (propertyTable.find? (·.1.contains name)).map fun (_, heads, lines) =>
    let ranges := readRanges lines
    fun c => heads.any (·.isPrefixOf (category c)) || inRanges ranges c

end PageConfig
