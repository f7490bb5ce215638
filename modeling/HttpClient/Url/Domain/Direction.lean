import HttpClient.Text.Category

/-!
# The direction of labels

A domain in which some characters are read from right to left is confusing unless each of its
labels reads one way: a label starts with a letter and ends with a letter or a digit, marks
aside, and holds only characters that go with the direction of the first. The tables speak of
folded text: a run may pass through characters that no folded domain holds.
-/

namespace HttpClient.Domain

/-- How a character is read among others. -/
inductive Direction
  | left
  | right
  | arabic
  | digit
  | arabicDigit
  | sign
  | separator
  | terminator
  | joiner
  | mark
  | neutral
  deriving DecidableEq, Repr

/-- Characters read from right to left. -/
def rightChars : CodeTable := .ofText "
  5BE 5C0 5C3 5C6 5D0-5F4 7C0-7EA 7F4-7F5 7FA 7FE-815 81A 824 828 830-858 85E 10800-1091B
  10920-10A00 10A10-10A35 10A40-10AE4 10AEB-10B35 10B40-10CFF 10D4A-10D4F 10D6F-10D8F 10E80-10EA9
  10EAD-10EB1 10F00-10F27 10F70-10F81 10F86-10FF6 1E800-1E8CF 1E922-1E943 1E94B-1E95F"

/-- Arabic letters. -/
def arabicChars : CodeTable := .ofText "
  608 60B 60D 61B-64A 66D-66F 671-6D5 6E5-6E6 6EE-6EF 6FA-710 712-72F 74D-7A5 7B1 860-88F 8A0-8C9
  FBB2-FBC2 FE73 10D00-10D23 10EC2-10EC7 10F30-10F45 10F51-10F59 1EC71-1ED3D"

/-- Arabic digits and the separators between them. -/
def arabicDigits : CodeTable := .ofText "
  660-669 66B-66C 10D30-10D49 10E60-10E7E"

/-- Digits. -/
def digits : CodeTable := .ofText "
  30-39 6F0-6F9 102E1-102FB"

/-- Signs in front of numbers. -/
def signs : CodeTable := .ofText "
  2B 2D 2212"

/-- Separators within numbers. -/
def separators : CodeTable := .ofText "
  2C 2E-2F 3A 60C 2044"

/-- Signs of currencies and the like at the end of numbers. -/
def terminators : CodeTable := .ofText "
  23-25 A2-A5 B0-B1 58F 609-60A 66A 9F2-9F3 9FB AF1 BF9 E3F 17DB 2030-2032 20A0-20C1 212E 2213
  A838-A839 11FDD-11FE0 1E2FF"

/-- Characters without a direction. -/
def neutralChars : CodeTable := .ofText "
  21-22 26-2A 3B-60 7B-A1 A6-AE B6-D7 F7 2B9-2BA 2C2-2CF 2D2-2ED 2EF-2FF 375 3F6 58A-58E 606-607
  60E-60F 6DE 6E9 7F6-7F9 BF3-BF8 BFA C78-C7E F3A-F3D 1390-1399 1400 169B-169C 17F0-180A 1940-1945
  19DE-19FF 2010-2027 2035-2043 2045-205E 2104-2129 213A-214D 218A-2211 2214-2335 237B-2394
  2396-26AB 26AD-27FF 2900-2BFF 2CE5-2CEA 2CF9-2CFF 2E00-3004 3008-3020 3030 3037 303D-303F 30A0
  30FB 31C0-31E5 4DC0-4DFF A490-A4C6 A60D-A60F A673 A67E-A67F A700-A721 A788 A828-A82B A874-A877
  AB6A-AB6B FBC3-FDFF FE45-FE46 10101 10140-1018C 10190-101A0 1091F 10B39-10B3F 10D6E 10ED0-10ED8
  11052-11065 11660-1166C 11FD5-11FDC 11FE1-11FF1 16FE2 1CC00-1CEF0 1D1E9-1D241 1D245 1D300-1D356
  1EEF0-1F12F 1F16D-1F16F 1F1AD 1F260-1FBFA"

/-- Nonspacing marks with a direction of their own. -/
def leftMarks : CodeTable := .ofText "
  CBF CC6 11A07-11A08 11C3F"

/-- How a character of a domain is read. -/
def Direction.ofChar (c : Char) : Direction :=
  if rightChars.contains c then .right
  else if arabicChars.contains c then .arabic
  else if arabicDigits.contains c then .arabicDigit
  else if digits.contains c then .digit
  else if signs.contains c then .sign
  else if separators.contains c then .separator
  else if terminators.contains c then .terminator
  else if neutralChars.contains c then .neutral
  else if c = '\u200C' || c = '\u200D' then .joiner
  else if Category.isNonspacing c && !leftMarks.contains c then .mark
  else .left

/-- True for what is read from right to left. -/
def Direction.isLeftward : Direction → Bool
  | .right | .arabic | .arabicDigit => true
  | _ => false

/-- True for what may stand in a label of either direction. -/
def Direction.isShared : Direction → Bool
  | .digit | .sign | .separator | .terminator | .joiner | .mark | .neutral => true
  | _ => false

/-- True for the directions of a label that reads one way. -/
def readsOneWay : List Direction → Bool
  | [] => true
  | first :: rest =>
    let last? := rest.reverse.find? (· != .mark)
    match first with
    | .left =>
      rest.all (fun d => d.isShared || d == .left) && last?.all fun d => d == .left || d == .digit
    | .right | .arabic =>
      rest.all (fun d => d.isShared || d.isLeftward)
        && last?.all (fun d => d.isLeftward || d == .digit)
        && !(rest.contains .digit && rest.contains .arabicDigit)
    | _ => false

/-- True when no label is read from right to left, or each reads one way. -/
def areReadable (labels : List (List Char)) : Bool :=
  let directions := labels.map (·.map Direction.ofChar)
  !directions.any (·.any Direction.isLeftward) || directions.all readsOneWay

end HttpClient.Domain
