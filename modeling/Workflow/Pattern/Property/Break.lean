/-!
# Breaks

The members of the classes that decide where text may be broken, in version 16 of the standard;
those that follow from other properties are left out.
-/

namespace Workflow.Pattern.Property

def graphemeBreaks : List (List String × String) := [
  (["SM", "SpacingMark"],
    "903 93B 93E-940 949-94C 94E-94F 982-983 9BF-9C0 9C7-9C8 9CB-9CC A03 A3E-A40 A83 ABE-AC0 AC9
    ACB-ACC B02-B03 B40 B47-B48 B4B-B4C BBF BC1-BC2 BC6-BC8 BCA-BCC C01-C03 C41-C44 C82-C83 CBE CC1
    CC3-CC4 CF3 D02-D03 D3F-D40 D46-D48 D4A-D4C D82-D83 DD0-DD1 DD8-DDE DF2-DF3 E33 EB3 F3E-F3F F7F
    1031 103B-103C 1056-1057 1084 17B6 17BE-17C5 17C7-17C8 1923-1926 1929-192B 1930-1931 1933-1938
    1A19-1A1A 1A55 1A57 1A6D-1A72 1B04 1B3E-1B41 1B82 1BA1 1BA6-1BA7 1BE7 1BEA-1BEC 1BEE 1C24-1C2B
    1C34-1C35 1CE1 1CF7 A823-A824 A827 A880-A881 A8B4-A8C3 A952 A983 A9B4-A9B5 A9BA-A9BB A9BE-A9BF
    AA2F-AA30 AA33-AA34 AA4D AAEB AAEE-AAEF AAF5 ABE3-ABE4 ABE6-ABE7 ABE9-ABEA ABEC 11000 11002 11082
    110B0-110B2 110B7-110B8 1112C 11145-11146 11182 111B3-111B5 111BF 111CE 1122C-1122E 11232-11233
    112E0-112E2 11302-11303 1133F 11341-11344 11347-11348 1134B-1134C 11362-11363 113B9-113BA 113CA
    113CC-113CD 11435-11437 11440-11441 11445 114B1-114B2 114B9 114BB-114BC 114BE 114C1 115B0-115B1
    115B8-115BB 115BE 11630-11632 1163B-1163C 1163E 116AC 116AE-116AF 1171E 11726 1182C-1182E 11838
    11931-11935 11937-11938 11940 11942 119D1-119D3 119DC-119DF 119E4 11A39 11A57-11A58 11A97 11C2F
    11C3E 11CA9 11CB1 11CB4 11D8A-11D8E 11D93-11D94 11D96 11EF5-11EF6 11F03 11F34-11F35 11F3E-11F3F
    1612A-1612C 16F51-16F87"),
  (["CN", "Control"],
    "0-9 B-C E-1F 7F-9F AD 61C 180E 200B 200E-200F 2028-202E 2060-206F FEFF FFF0-FFFB 13430-1343F
    1BCA0-1BCA3 1D173-1D17A E0000-E001F E0080-E00FF E01F0-E0FFF"),
  (["PP", "Prepend"],
    "600-605 6DD 70F 890-891 8E2 D4E 110BD 110CD 111C2-111C3 113D1 1193F 11941 11A3A 11A84-11A89 11D46
    11F02"),
  (["CR"], "D"),
  (["LF"], "A"),
  (["ZWJ"], "200D"),
  (["RI", "Regional_Indicator"], "1F1E6-1F1FF"),
  (["L"], "1100-115F A960-A97C"),
  (["V"], "1160-11A7 D7B0-D7C6 16D63 16D67-16D6A"),
  (["T"], "11A8-11FF D7CB-D7FB")]

def wordBreaks : List (List String × String) := [
  (["DQ", "Double_Quote"], "22"),
  (["SQ", "Single_Quote"], "27"),
  (["KA", "Katakana"],
    "3031-3035 309B-309C 30A0-30FA 30FC-30FF 31F0-31FF 32D0-32FE 3300-3357 FF66-FF9D 1AFF0-1AFF3
    1AFF5-1AFFB 1AFFD-1AFFE 1B000 1B120-1B122 1B155 1B164-1B167"),
  (["HL", "Hebrew_Letter"],
    "5D0-5EA 5EF-5F2 FB1D FB1F-FB28 FB2A-FB36 FB38-FB3C FB3E FB40-FB41 FB43-FB44 FB46-FB4F"),
  (["ML", "MidLetter"], "3A B7 387 55F 5F4 2027 FE13 FE55 FF1A"),
  (["MN", "MidNum"], "2C 3B 37E 589 60C-60D 66C 7F8 2044 FE10 FE14 FE50 FE54 FF0C FF1B"),
  (["MB", "MidNumLet"], "2E 2018-2019 2024 FE52 FF07 FF0E"),
  (["NL", "Newline"], "B-C 85 2028-2029"),
  (["RI", "Regional_Indicator"], "1F1E6-1F1FF"),
  (["ZWJ"], "200D"),
  (["CR"], "D"),
  (["LF"], "A"),
  (["WSegSpace"], "20 1680 2000-2006 2008-200A 205F 3000")]

def sentenceBreaks : List (List String × String) := [
  (["AT", "ATerm"], "2E 2024 FE52 FF0E"),
  (["SC", "SContinue"],
    "2C-2D 3A-3B 37E 55D 60C-60D 7F8 1802 1808 2013-2014 3001 FE10-FE11 FE13-FE14 FE31-FE32 FE50-FE51
    FE54-FE55 FE58 FE63 FF0C-FF0D FF1A-FF1B FF64"),
  (["CL", "Close"],
    "22 27-29 5B 5D 7B 7D AB BB F3A-F3D 169B-169C 2018-201F 2039-203A 2045-2046 207D-207E 208D-208E
    2308-230B 2329-232A 275B-2760 2768-2775 27C5-27C6 27E6-27EF 2983-2998 29D8-29DB 29FC-29FD
    2E00-2E0D 2E1C-2E1D 2E20-2E29 2E42 2E55-2E5C 3008-3011 3014-301B 301D-301F FD3E-FD3F FE17-FE18
    FE35-FE44 FE47-FE48 FE59-FE5E FF08-FF09 FF3B FF3D FF5B FF5D FF5F-FF60 FF62-FF63 1F676-1F678"),
  (["SE", "Sep"], "85 2028-2029"),
  (["SP", "Sp"], "9 B-C 20 A0 1680 2000-200A 202F 205F 3000"),
  (["CR"], "D"),
  (["LF"], "A")]

/-- Signs that stand before numbers. -/
def prefixedNumbers : String :=
  "600-605 6DD 890-891 8E2 110BD 110CD"

def wordSigns : String :=
  "2C2-2C5 2D2-2D7 2DE-2DF 2E5-2EB 2ED 2EF-2FF 55A-55C 55E 58A 5F3 70F A708-A716 A720-A721 A789-A78A
  AB5B"

/-- Letters of scripts that do not set their words apart. -/
def unspacedScripts : String :=
  "E01-E3A E40-E46 E4D E81-E82 E84 E86-E8A E8C-EA3 EA5 EA7-EB9 EBB-EBD EC0-EC4 EC6 ECD EDC-EDF
  1000-1036 1038 103B-103F 1050-108F 109A-109D 1780-17B3 17B6-17C8 17D7 17DC 1950-196D 1970-1974
  1980-19AB 19B0-19C9 1A20-1A5E 1A61-1A74 1AA7 A9E0-A9EF A9FA-A9FE AA60-AA76 AA7A-AABE AAC0 AAC2
  AADB-AADD 11700-1171A 1171D-1172A 11740-11746"

end Workflow.Pattern.Property
