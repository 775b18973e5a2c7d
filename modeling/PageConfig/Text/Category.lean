/-!
# General categories

The general category of every code point, as runs that cover the code space in
order. A run is written as the letter of its category and its length, the
length left out when it is one; letter number `i` stands for `categoryNames[i]`.
-/

set_option autoImplicit false

namespace PageConfig

def categoryNames : List String :=
  ["Cc", "Cf", "Cn", "Co", "Cs", "Ll", "Lm", "Lo", "Lt", "Lu", "Mc", "Me", "Mn", "Nd", "Nl", "No",
    "Pc", "Pd", "Pe", "Pf", "Pi", "Po", "Ps", "Sc", "Sk", "Sm", "So", "Zl", "Zp", "Zs"]

def categoryData : List String := [
  "A32dV3XV3WSVZVRV2N10V2Z3V2J26WVSYQYF26WZSZA33dVX4aVYaHUZBaYaZP2YFV2YPHTP3VJ23ZJ7F24ZF8JFJF",
  "JFJFJFJFJFJFJFJFJFJFJFJFJFJFJFJFJFJFJFJFJFJFJFJFJFJF2JFJFJFJFJFJFJFJF2JFJFJFJFJFJFJFJFJFJF",
  "JFJFJFJFJFJFJFJFJFJFJFJFJFJ2FJFJF3J2FJFJ2FJ3F2J4FJ2FJ3F3J2FJ2FJFJFJ2FJF2JFJ2FJ3FJFJ2F2HJF3",
  "H4JIFJIFJIFJFJFJFJFJFJFJFJF2JFJFJFJFJFJFJFJFJF2JIFJFJ3FJFJFJFJFJFJFJFJFJFJFJFJFJFJFJFJFJFJ",
  "FJFJFJFJFJFJFJFJFJFJFJF7J2FJ2F2JFJ4FJFJFJFJF69H2F26G18Y4G12Y14G5Y7GYGY17M112JFJFGYJFC2GF3V",
  "JC4Y2JVJ3CJCJ2FJ17CJ9F35JF2J3F3JFJFJFJFJFJFJFJFJFJFJFJF5JFZJFJ2F2J51F48JFJFJFJFJFJFJFJFJFJ",
  "FJFJFJFJFJFJFJFaM5L2JFJFJFJFJFJFJFJFJFJFJFJFJFJFJFJFJFJFJFJFJFJFJFJFJFJFJFJ2FJFJFJFJFJFJF2",
  "JFJFJFJFJFJFJFJFJFJFJFJFJFJFJFJFJFJFJFJFJFJFJFJFJFJFJFJFJFJFJFJFJFJFJFJFJFJFJFJFJFJFJFJFJF",
  "JFJFJFCJ38C2GV6F41VRC2a2XCM45RMVM2VM2VMC8H27C4H4V2C11B6Z3V2XV2a2M11VBV3H32GH10M21N10V4H2MH",
  "99VHM7BaM6G2M2aM4H2N10H3a2HV14CBHMH30M27C2H89M11HC14N10H33M9G2aV3GC2MX2H22M4GM9GM3GM5C2V15",
  "CH25M3C2VCH11C5H24YH7B2C5M9H41GM24BM32KH54MKMHK3M8K4MK2HM7H10M2V2N10VGH15MK2CH8C2H2C2H22CH",
  "7CHC3H4C2MHK3M4C2K2C2K2MHC8KC4H2CH3M2C2N10H2X2P6aXHVMC2M2KCH6C4H2C2H22CH7CH2CH2CH2C2MCK3M2",
  "C4M2C2M3C3MC7H4CHC7N10M2H3MVC10M2KCH9CH3CH22CH7CH2CH5C2MHK3M5CM2KCK2MC2HC15H2M2C2N10VXC7HM",
  "6CMK2CH8C2H2C2H22CH7CH2CH5C2MHKMKM4C2K2C2K2MC7M2KC4H2CH3M2C2N10aHP6C10MHCH6C3H3CH4C3H2CHCH",
  "2C3H2C3H3C3H12C4K2MK2C3K3CK3MC2HC6KC14N10P3a6XaC5MK3MH8CH3CH23CH16C2MHM3K4CM3CM4C7M2CH3CH2",
  "C2H2M2C2N10C7VP7aHMK2VH8CH3CH23CH10CH5C2MHKMK5CMK2CK2M2C7K2C5H3CH2M2C2N10CH2KC12M2K2H9CH3C",
  "H41M2HK3M4CK3CK3MHaC4H3KP7H3M2C2N10P9aH6CMK2CH18C3H24CH9CHC2H7C3MC4K3M3CMCK8C6N10C2K2VC12H",
  "48MH2M7C4XH6GM8VN10V2C37H2CHCH5CH24CHCH10MH2M9HC2H5CGCM7CN10C2H4C32Ha3V15aVa3M2a6N10P10aMa",
  "MaMWSWSK2H8CH36C4M14KM5VM2H5M11CM36Ca8Ma6Ca2V5a4V2C37H43K2M4KM6KM2K2M2HN10V6H6K2M2H4M3HK3H",
  "2K7H3M4H13MK2M2K6MHKN10K3Ma2J38CJC5JC2F43VGF3H329CH4C2H7CHCH4C2H41CH4C2H33CH4C2H7CHCH4C2H1",
  "5CH57CH4C2H67C2M3V9P20C3H16a10C6J86C2F6C2RH620aVH17dH26WSC3H75V3O3H8C7H18M3KC9H19M2KV2C9H1",
  "8M2C12H13CH3CM2C12H52M2KM7K8MK2M11V3GV3XHMC2N10C6P10C6V6RV4M3BMN10C6H35GH53C7H5M2H34MHC5H7",
  "0C10H31CM3K4M2K3C4K2MK6M3C4aC3V2N10H30C2H5C11H44C4H26C6N10PC3a34H23M2K2MC2V2H53KMKM7CMKMK2",
  "M8K6M10C2MN10C6N10C6V7GV6C2M14LM31C2M12C20M4KH47MKM5KMK5MK2H8CV2N10V7a10M9a9V3M2KH30KM4K2M",
  "2KM3H2N10H44MKM2K3MKM3K2C8V4H36K8M8K2M2C3V5N10C3H3N10H30G6V2F9JFC5J43C2J3V8C8M3VM13KM7H4MH",
  "6MH2KM2HC5F44G63F13GF34G37M64JFJFJFJFJFJFJFJFJFJFJFJFJFJFJFJFJFJFJFJFJFJFJFJFJFJFJFJFJFJFJ",
  "FJFJFJFJFJFJFJFJFJFJFJFJFJFJFJFJFJFJFJFJFJFJFJFJFJFJFJFJFJFJFJFJFJFJFJFJFJFJFJFJFJFJFJFJF9",
  "JFJFJFJFJFJFJFJFJFJFJFJFJFJFJFJFJFJFJFJFJFJFJFJFJFJFJFJFJFJFJFJFJFJFJFJFJFJFJFJFJFJFJFJFJF",
  "JFJFJFJF9J8F6C2J6C2F8J8F8J8F6C2J6C2F8CJCJCJCJF8J8F14C2F8I8F8I8F8I8F5CF2J4IYFY3F3CF2J4IY3F4",
  "C2F2J4CY3F8J5Y3C2F3CF2J4IY2Cd11B5R6V2UTWU2TWUV8bcB5dV9UTV4Q2V3ZWSV11ZVQV10dB5CB10PGC2P6Z3W",
  "SGP10Z3WSCG13C3X34C14M13L4ML3M12C15a2Ja4Ja2FJ3F2J3FaJa2ZJ5a6JaJaJaJ4aFJ4FH4Fa2F2J2Z5JF4aZa",
  "2FaP16O35JFO4Pa2C4Z5a5Z2a4Za2Za2Za7Za31Z2a2ZaZa31Z268a8WSWSa20Z2a7WSa81Za30Z25a40Z6a72C22a",
  "11C21P60a78P22a183Za9Za54Z8a111Za248WSWSWSWSWSWSWSP30a44Z5WSZ31WSWSWSWSWSZ16a256Z131WSWSWS",
  "WSWSWSWSWSWSWSWSZ63WSWSZ32WSZ258a48Z21a2Z6a39C2a138J48F48JFJ3F2JFJFJFJ4FJF2JF6G2J3FJFJFJFJ",
  "FJFJFJFJFJFJFJFJFJFJFJFJFJFJFJFJFJFJFJFJFJFJFJFJFJFJFJFJFJFJFJFJFJFJFJFJFJFJFJFJFJFJFJFJFJ",
  "F2a6JFJFM3JFC5V4PV2F38CFC5FC2H56C7GVC14MH23C9H7CH7CH7CH7CH7CH7CH7CH7CM32V2UTUTV3UTVUTV9RV2",
  "RVUTV2UTWSWSWSWSV5GV10R2V4RVWV13a2V3WSWSWSWSRC34a26Ca89C12a214C26a16dV3aGHOWSWSWSWSWSa2WSW",
  "SWSWSRWS2aO9M4K2RG5a2O3GHVa2CH86C2M2Y2G2HRH90VG3HC5H43CH94Ca2P4a10H32a38C9aH16a31CP10a30P8",
  "aP15a32P10a39P15a320H6592a64H21013GH1143C3a55C9H40G6V2H268GV3H16N10H2C20JFJFJFJFJFJFJFJFJF",
  "JFJFJFJFJFJFJFJFJFJFJFJFJFJFHML3VM10VGJFJFJFJFJFJFJFJFJFJFJFJFJFJFG2M2H70O10M2V6C8Y23G9Y2J",
  "FJFJFJFJFJFJF3JFJFJFJFJFJFJFJFJFJFJFJFJFJFJFJFJFJFJFJFJFJFJFJFJFJFJFJFJFJFJFGF8JFJFJ2FJFJF",
  "JFJFGY2JFJFHJFJF3JFJFJFJFJFJFJFJFJFJFJ5FJ5FJFJFJFJFJFJFJFJ4FJFJ2FJFJFJFJFJFJFJFJC20G4JFHG2",
  "FH7MH3MH4MH23K2M2Ka4MC3P6a2XaC6H52V4C8K2H50K16M2C8V2N10C6M18H6V3HVH2MN10H28M8V2H23M11K2C11",
  "VH29C3M3KH47MK2M4K2M2K3V13CGN10C4V2H5MGH9N10H5CH41M6K2M2K2M2C9H3MH8MKC2N10C2V4H16GH6a3HKMK",
  "H50MHM3H2M2H5M2HMHC24H2GV2H11KM2K2V2HG2KMC10H6C2H6C2H6C9H7CH7CF43YG4F9GY2C4F80H35K2MK2MK2V",
  "KMC2N10C6H11172C12H23C4H49C4E2048D6400H366C2H106C38F7C12F5C5HMH10ZH13CH5CHCH2CH2CH108Y17a1",
  "6H363SWa16H64a2H54a8C32H12Xa3M16V7WSVC6M16VR2Q2WSWSWSWSWSWSWSWSV2WSV4Q3V3CV4RWSWSWSV3ZRZ3C",
  "VXV2C4H5CH135C2BCV3XV3WSVZVRV2N10V2Z3V2J26WVSYQYF26WZSZWSVWSV2H10GH45G2H31C3H6C2H6C2H6C2H3",
  "C3X2ZYaX2CaZ4a2C10B3a2C2H12CH26CH19CH2CH15C2H14C34H123C5V3C4P45C3a9O53P4a17P2a3Ca13C3aC47a",
  "45MC130H29C3H49C15MP27C4H32P4C9H20OH8OC5H38M5C5H30CVH36C4H8VO5C42J40F40H78C2N10C6J36C4F36C",
  "4H40C8H52C11VJ11CJ15CJ7CJ2CF11CF15CF7CF2C3H52C12H311C9H22C10H8C24G6CG42CG9C69H6C2HCH44CH2C",
  "3HC2H23CVP8H23a2P7H31C8P9C48H19CH2C5P5H22P6C3VH26C5VH26C38H56C4P2H2P16C2P46HM3CM2C5M4H4CH3",
  "CH29C2M3C4MP9C7V9C7H29P2VH29P3C32H8aH28M2C4P5V7C9H54C3V7H22C2P8H19C5P8H18C7V4C12P7C80H73C5",
  "5J51C13F51C7P6H36M4C8N10C6N10H4GHJ22C3M5RGF22C8Z2C208P31CH42CM2RC2H2C16H3GH2C8Va8C33M6H29P",
  "10HC8H22M11P4V5C22H18M4V4C38H21P7C20H23C9KMKH53M15V7C4P20N10MH2M2HC9M3KH45K3M4K2M2V2BV4MC1",
  "0BC2H25C7N10C6M3H36M5KM8CN10V4HK2HC8H35MV2HC9M2KH48K3M9K2H4V4M4VKMN10HVHV3CP20C11H18CH25K3",
  "M3K2MKM2V6MH2MC62H7CHCH4CH15CH10VC6H47MK3M8C5N10C6M2K2CH8C2H2C2H22CH7CH2CH5CM2HK2MK4C2K2C2",
  "K3C2HC6KC5H5K2C2M7C3M5C11H10CHC2HCH38CHK3M6CKC2KCK4CK2MKMHMHV2CV2C8M2C29H53K3M8K2M3KMH4V5N",
  "10V2CVMH3C30H48K3M6KMK4M2KM2H2VHC8N10C166H47K3M4C2K4M2KM2V23H4M2C34H48K3M8K2MKM2V3HC11N10C",
  "6V13C19H43MKMK2M6KMHVC6N10C6N20C28H27C2MKMK2M4KM5C4N10P2V3aH7C185H44K3M9KM2VC100J32F32N10P",
  "9C12H8C2HC2H8CH2CH24K6CK2C2M2KMHKHKMV3C9N10C70H8C2H39K3M4C2M2K4MHVHKC27HM10H40M6KHM4V8MC8H",
  "M6K2M3H46M13KM2V3HV5C13H73C7V10C86MKM3KMKC88H33VC14N10C6H9CH37KM7CM6KMHV5C10N10P19C3V2H30C",
  "2M22CKM7KM2KM2C73H7CH2CH38M6C3MCM2CM7HMC8N10C6H6CH2CH32K5CM2CK2MKMHC7N10C6H41GH2C4N10C246H",
  "19M2K2V2C7M2HKH13CH34K2M5C3K2MKMV13N10MC85HC15P21a8X4a17C13VH922C102O111CV5C11H196C2636H97",
  "V2C13H1072B16MH6M15C10H3995C5H583C6841H30M12K3M3N10C1734H569C7H31CN10C4V2H79CN10C6H30C2M5V",
  "C10H48M7V5a4G4VaC10N10CP7CH21C5H19C432G3H40G2V3N10C198J32F32P23V4C5J25C2F25C44H75C4MHK55C7",
  "M4G13C64G2VGMC11K2G2O3C9H7382C41H32C97H115C8701G4CG7CG2CH291C15HC29H3C2HC14H4C8H396C2308H1",
  "07C5H13C3H9C7H10C2aM2VB4C3932a240N10a3C3a436C6a23C15a16ZC15M46C2M23C9a116C60a246C10a39C2a6",
  "0K2M3a3K6B8M8a2M7a30M4a61C21a66M3aC122P20C12P20C12a87C9P25C135J26F26J26F7CF18J26F26JCJ2C2J",
  "C2J2C2J4CJ8F4CFCF7CF11J26F26J2CJ4C2J8CJ7CF26J2CJ4CJ5CJC3J7CF26J26F26J26F26J26F26J26F26J26F",
  "26J26F28C2J25ZF25ZF6J25ZF25ZF6J25ZF25ZF6J25ZF25ZF6J25ZF25ZF6JFC2N50a512M55a4M50a8Ma14Ma2V5",
  "C15M5CM15C1104F10HF20C6F6C213M7CM17C2M7CM2CM5C5G62C33MC112H45C3M7G7C2N10C4HaC320H30MC17H44",
  "M4N10C5XC464H27GM4N10C214H30M2HN10C4VC192H31CH3MH2MH7M2H5MC8HGC224H7CH4CH2CH15CH197C2P9M7C",
  "41J34F34M7GC4N10C4V2C785P59aP3XP4C76P45aP15C194H4CH27CH2CHC2HCH10CH4CHCHC6HC4HCHCHCH3CH2CH",
  "C2HCHCHCHCHCH2CHC2H4CH7CH4CH4CHCH10CH17C5H3CH5CH17C52Z2C270a44C4a100C12a15C2a15Ca15Ca37C10",
  "P13a161C56a29C13a44C4a9C7a2C14a6C154a251Y5a729C3a17C3a13C3a218C6a12C4aC15a12C4a56C8a10C6a4",
  "0C8a30C2a12C4a2C14Z9C39a344C8a14C2a13C3a11C3a57CaC4a16C2a12C4a10C7a147Ca92N10aC1029H42720C",
  "32H4382C2H5774C2H7473C15H622C2466H542C1506H4939C5H8490C707463BC30B96C128M240C65040D65534C2",
  "D65534C2"]

def categoryOfLetter (c : Char) : String :=
  let i := if c.isUpper then c.toNat - 'A'.toNat else c.toNat - 'a'.toNat + 26
  categoryNames.getD i "Cn"

def readRuns (start : Nat) (category : String) (length : Nat) : List Char → List (Nat × String)
  | [] => [(start, category)]
  | c :: data =>
    if c.isDigit then readRuns start category (10 * length + (c.toNat - '0'.toNat)) data
    else (start, category) :: readRuns (start + max 1 length) (categoryOfLetter c) 0 data

def categoryRuns : Array (Nat × String) :=
  match categoryData.flatMap String.toList with
  | [] => #[]
  | c :: data => (readRuns 0 (categoryOfLetter c) 0 data).toArray

def findRun (runs : Array (Nat × String)) (n low high : Nat) : String :=
  if h : low + 1 < high then
    let middle := (low + high) / 2
    if (runs.getD middle (0, "Cn")).1 ≤ n then findRun runs n middle high
    else findRun runs n low middle
  else (runs.getD low (0, "Cn")).2
termination_by high - low

def category (c : Char) : String := findRun categoryRuns c.toNat 0 categoryRuns.size

end PageConfig
