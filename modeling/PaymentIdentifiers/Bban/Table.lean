import PaymentIdentifiers.Bban.Structure

/-!
# The table of account number structures

One row per country that issues international account numbers: the format of its national account numbers and
the places of the bank, the branch, the national check digits and the account in them. Territories that use the
format of another country are listed with that country.
-/
namespace PaymentIdentifiers.Bban

def row (country expression : String) (bank branch nationalCheck account : Option (Int × Int))
    (subdivisions : List String) : Row :=
  ⟨country, expression, bank, branch, nationalCheck, account, subdivisions.map String.toList⟩

def frenchTerritories : List String :=
  ["GF", "GP", "MQ", "RE", "PF", "TF", "YT", "NC", "BL", "MF", "PM", "WF"]

/-- The rows from AD to KZ. -/
def rowsADToKZ : List Row := [
  row "AD" "4!n4!n12!c" (some (0, 4)) (some (4, 8)) none (some (8, 20)) [],
  row "AE" "3!n16!n" (some (0, 3)) none none (some (3, 19)) [],
  row "AL" "8!n16!c" (some (0, 3)) (some (3, 7)) (some (7, 8)) (some (8, 24)) [],
  row "AT" "5!n11!n" (some (0, 5)) none none (some (5, 16)) [],
  row "AZ" "4!a20!c" (some (0, 4)) none none (some (4, 24)) [],
  row "BA" "3!n3!n8!n2!n" (some (0, 3)) (some (3, 6)) (some (14, 16)) (some (6, 14)) [],
  row "BE" "3!n7!n2!n" (some (0, 3)) none (some (10, 12)) (some (3, 10)) [],
  row "BG" "4!a4!n2!n8!c" (some (0, 4)) (some (4, 8)) none (some (8, 18)) [],
  row "BH" "4!a14!c" (some (0, 4)) none none (some (4, 18)) [],
  row "BI" "5!n5!n11!n2!n" (some (0, 5)) (some (5, 10)) (some (21, 23)) (some (10, 21)) [],
  row "BR" "8!n5!n10!n1!a1!c" (some (0, 8)) (some (8, 13)) none (some (13, 23)) [],
  row "BY" "4!c4!n16!c" (some (0, 4)) none none (some (8, 24)) [],
  row "CH" "5!n12!c" (some (0, 5)) none none (some (5, 17)) [],
  row "CR" "4!n14!n" (some (0, 4)) none none (some (4, 18)) [],
  row "CY" "3!n5!n16!c" (some (0, 3)) (some (3, 8)) none (some (8, 24)) [],
  row "CZ" "4!n6!n10!n" (some (0, 4)) none none (some (4, 20)) [],
  row "DE" "8!n10!n" (some (0, 8)) none none (some (8, 18)) [],
  row "DJ" "5!n5!n11!n2!n" (some (0, 5)) (some (5, 10)) (some (21, 23)) (some (10, 21)) [],
  row "DK" "4!n9!n1!n" (some (0, 4)) none (some (13, 14)) (some (4, 13)) [],
  row "DO" "4!c20!n" (some (0, 4)) none none (some (4, 24)) [],
  row "EE" "2!n2!n11!n1!n" (some (0, 2)) none (some (15, 16)) (some (2, 15)) [],
  row "EG" "4!n4!n17!n" (some (0, 4)) (some (4, 8)) none (some (8, 25)) [],
  row "ES" "4!n4!n1!n1!n10!n" (some (0, 4)) (some (4, 8)) (some (8, 10)) (some (10, 20)) [],
  row "FI" "6!n7!n1!n" (some (0, 3)) none (some (13, 14)) (some (3, 13)) ["AX"],
  row "FK" "2!a12!n" (some (0, 2)) none none (some (2, 14)) [],
  row "FO" "4!n9!n1!n" (some (0, 4)) none (some (13, 14)) (some (4, 13)) [],
  row "FR" "5!n5!n11!c2!n" (some (0, 5)) (some (5, 10)) (some (21, 23)) (some (10, 21)) frenchTerritories,
  row "GB" "4!a6!n8!n" (some (0, 4)) (some (4, 10)) none (some (10, 18)) ["GG", "IM", "JE"],
  row "GE" "2!a16!n" (some (0, 2)) none none (some (2, 18)) [],
  row "GI" "4!a15!c" (some (0, 4)) none none (some (4, 19)) [],
  row "GL" "4!n9!n1!n" (some (0, 4)) none (some (13, 14)) (some (4, 13)) [],
  row "GR" "3!n4!n16!c" (some (0, 3)) (some (3, 7)) none (some (7, 23)) [],
  row "GT" "4!c20!c" (some (0, 4)) none none (some (4, 24)) [],
  row "HR" "7!n10!n" (some (0, 7)) none none (some (7, 17)) [],
  row "HU" "3!n4!n1!n15!n1!n" (some (0, 3)) (some (3, 7)) (some (23, 24)) (some (8, 23)) [],
  row "IE" "4!a6!n8!n" (some (0, 4)) (some (4, 10)) none (some (10, 18)) [],
  row "IL" "3!n3!n13!n" (some (0, 3)) (some (3, 6)) none (some (6, 19)) [],
  row "IQ" "4!a3!n12!n" (some (0, 4)) (some (4, 7)) none (some (7, 19)) [],
  row "IS" "4!n2!n6!n10!n" (some (0, 2)) (some (2, 4)) none (some (4, 12)) [],
  row "IT" "1!a5!n5!n12!c" (some (1, 6)) (some (6, 11)) (some (0, 1)) (some (11, 23)) [],
  row "JO" "4!a4!n18!c" (some (0, 4)) (some (4, 8)) none (some (8, 26)) [],
  row "KW" "4!a22!c" (some (0, 4)) none none (some (4, 26)) [],
  row "KZ" "3!n13!c" (some (0, 3)) none none (some (3, 16)) []]

/-- The rows from LB to VG. -/
def rowsLBToVG : List Row := [
  row "LB" "4!n20!c" (some (0, 4)) none none (some (4, 24)) [],
  row "LC" "4!a24!c" (some (0, 4)) none none (some (4, 28)) [],
  row "LI" "5!n12!c" (some (0, 5)) none none (some (5, 17)) [],
  row "LT" "5!n11!n" (some (0, 5)) none none (some (5, 16)) [],
  row "LU" "3!n13!c" (some (0, 3)) none none (some (3, 16)) [],
  row "LV" "4!a13!c" (some (0, 4)) none none (some (4, 17)) [],
  row "LY" "3!n3!n15!n" (some (0, 3)) (some (3, 6)) none (some (6, 21)) [],
  row "MC" "5!n5!n11!c2!n" (some (0, 5)) (some (5, 10)) (some (21, 23)) (some (10, 21)) [],
  row "MD" "2!c18!c" (some (0, 2)) none none (some (2, 20)) [],
  row "ME" "3!n13!n2!n" (some (0, 3)) none (some (16, 18)) (some (3, 16)) [],
  row "MK" "3!n10!c2!n" (some (0, 3)) none (some (13, 15)) (some (3, 13)) [],
  row "MN" "4!n12!n" (some (0, 4)) none none (some (4, 16)) [],
  row "MR" "5!n5!n11!n2!n" (some (0, 5)) (some (5, 10)) (some (21, 23)) (some (10, 21)) [],
  row "MT" "4!a5!n18!c" (some (0, 4)) (some (4, 9)) none (some (9, 27)) [],
  row "MU" "4!a2!n2!n12!n3!n3!a" (some (0, 6)) (some (6, 8)) none (some (8, 20)) [],
  row "NI" "4!a20!n" (some (0, 4)) none none (some (4, 24)) [],
  row "NL" "4!a10!n" (some (0, 4)) none none (some (4, 14)) [],
  row "NO" "4!n6!n1!n" (some (0, 4)) none (some (10, 11)) (some (4, 10)) [],
  row "OM" "3!n16!c" (some (0, 3)) none none (some (3, 19)) [],
  row "PK" "4!a16!c" (some (0, 4)) none none (some (4, 20)) [],
  row "PL" "8!n16!n" (some (0, 3)) (some (3, 7)) (some (7, 8)) (some (8, 24)) [],
  row "PS" "4!a21!c" (some (0, 4)) none none (some (4, 25)) [],
  row "PT" "4!n4!n11!n2!n" (some (0, 4)) (some (4, 8)) (some (19, 21)) (some (8, 19)) [],
  row "QA" "4!a21!c" (some (0, 4)) none none (some (4, 25)) [],
  row "RO" "4!a16!c" (some (0, 4)) none none (some (4, 20)) [],
  row "RS" "3!n13!n2!n" (some (0, 3)) none (some (16, 18)) (some (3, 16)) [],
  row "RU" "9!n5!n15!c" (some (0, 9)) (some (9, 14)) none (some (14, 29)) [],
  row "SA" "2!n18!c" (some (0, 2)) none none (some (2, 20)) [],
  row "SC" "4!a2!n2!n16!n3!a" (some (0, 6)) (some (6, 8)) none (some (8, 24)) [],
  row "SD" "2!n12!n" (some (0, 2)) none none (some (2, 14)) [],
  row "SE" "3!n16!n1!n" (some (0, 3)) none (some (19, 20)) (some (3, 19)) [],
  row "SI" "5!n8!n2!n" (some (0, 2)) (some (2, 5)) (some (13, 15)) (some (5, 13)) [],
  row "SK" "4!n6!n10!n" (some (0, 4)) none none (some (4, 20)) [],
  row "SM" "1!a5!n5!n12!c" (some (1, 6)) (some (6, 11)) (some (0, 1)) (some (11, 23)) [],
  row "SO" "4!n3!n12!n" (some (0, 4)) (some (4, 7)) none (some (7, 19)) [],
  row "ST" "4!n4!n11!n2!n" (some (0, 4)) (some (4, 8)) (some (19, 21)) (some (8, 19)) [],
  row "SV" "4!a20!n" (some (0, 4)) none none (some (4, 24)) [],
  row "TL" "3!n14!n2!n" (some (0, 3)) none (some (17, 19)) (some (3, 17)) [],
  row "TN" "2!n3!n13!n2!n" (some (0, 2)) (some (2, 5)) (some (18, 20)) (some (5, 18)) [],
  row "TR" "5!n1!n16!c" (some (0, 5)) none none (some (6, 22)) [],
  row "UA" "6!n19!c" (some (0, 6)) none none (some (6, 25)) [],
  row "VA" "3!n15!n" (some (0, 3)) none none (some (3, 18)) [],
  row "VG" "4!a16!n" (some (0, 4)) none none (some (4, 20)) []]

/-- All rows in ascending order of the country. -/
def tableRows : List Row := rowsADToKZ ++ rowsLBToVG

end PaymentIdentifiers.Bban
