import EndpointPool.Unicode.Spans

/-!
# Bidirectional classes

The class of a character says in which direction it is written, or how it follows the direction
of the characters around it.
-/

namespace EndpointPool.Unicode

/-- The bidirectional classes of the characters that domain names may have. -/
inductive BidiClass
  | leftToRight
  | rightToLeft
  | arabicLetter
  | arabicNumber
  | europeanNumber
  | europeanSeparator
  | europeanTerminator
  | commonSeparator
  | nonspacingMark
  | boundaryNeutral
  | otherNeutral
  deriving DecidableEq

/-- The class of an abbreviation. -/
private def BidiClass.ofText (text : List Char) : BidiClass :=
  match String.ofList (text.drop 1) with
  | "R" => rightToLeft
  | "AL" => arabicLetter
  | "AN" => arabicNumber
  | "EN" => europeanNumber
  | "ES" => europeanSeparator
  | "ET" => europeanTerminator
  | "CS" => commonSeparator
  | "NSM" => nonspacingMark
  | "BN" => boundaryNeutral
  | "ON" => otherNeutral
  | _ => leftToRight

/-- The classes other than left-to-right. -/
private def bidiClasses : Spans BidiClass := .ofText BidiClass.ofText
  "0021-0022:ON 0023-0025:ET 0026-002A:ON 002B:ES 002C:CS 002D:ES 002E-002F:CS 0030-0039:EN
    003A:CS 003B-0060:ON 007B-007E:ON 007F:BN 00A1:ON 00A2-00A5:ET 00A6-00AE:ON 00B0-00B1:ET
    00B6-00D7:ON 00F7:ON 02B9-02BA:ON 02C2-02CF:ON 02D2-02ED:ON 02EF-02FF:ON 0300-036F:NSM 0375:ON
    03F6:ON 0483-0489:NSM 058A-058E:ON 058F:ET 0591-05BD:NSM 05BE:R 05BF:NSM 05C0:R 05C1-05C2:NSM
    05C3:R 05C4-05C5:NSM 05C6:R 05C7:NSM 05D0-05F4:R 0606-0607:ON 0608:AL 0609-060A:ET 060B:AL
    060C:CS 060D:AL 060E-060F:ON 0610-061A:NSM 061B-064A:AL 064B-065F:NSM 0660-0669:AN 066A:ET
    066B-066C:AN 066D-066F:AL 0670:NSM 0671-06D5:AL 06D6-06DC:NSM 06DE:ON 06DF-06E4:NSM
    06E5-06E6:AL 06E7-06E8:NSM 06E9:ON 06EA-06ED:NSM 06EE-06EF:AL 06F0-06F9:EN 06FA-0710:AL
    0711:NSM 0712-072F:AL 0730-074A:NSM 074D-07A5:AL 07A6-07B0:NSM 07B1:AL 07C0-07EA:R
    07EB-07F3:NSM 07F4-07F5:R 07F6-07F9:ON 07FA:R 07FD:NSM 07FE-0815:R 0816-0819:NSM 081A:R
    081B-0823:NSM 0824:R 0825-0827:NSM 0828:R 0829-082D:NSM 0830-0858:R 0859-085B:NSM 085E:R
    0860-088F:AL 0897-089F:NSM 08A0-08C9:AL 08CA-0902:NSM 093A:NSM 093C:NSM 0941-0948:NSM 094D:NSM
    0951-0957:NSM 0962-0963:NSM 0981:NSM 09BC:NSM 09C1-09C4:NSM 09CD:NSM 09E2-09E3:NSM 09F2-09F3:ET
    09FB:ET 09FE-0A02:NSM 0A3C:NSM 0A41-0A51:NSM 0A70-0A71:NSM 0A75:NSM 0A81-0A82:NSM 0ABC:NSM
    0AC1-0AC8:NSM 0ACD:NSM 0AE2-0AE3:NSM 0AF1:ET 0AFA-0B01:NSM 0B3C:NSM 0B3F:NSM 0B41-0B44:NSM
    0B4D-0B56:NSM 0B62-0B63:NSM 0B82:NSM 0BC0:NSM 0BCD:NSM 0BF3-0BF8:ON 0BF9:ET 0BFA:ON 0C00:NSM
    0C04:NSM 0C3C:NSM 0C3E-0C40:NSM 0C46-0C56:NSM 0C62-0C63:NSM 0C78-0C7E:ON 0C81:NSM 0CBC:NSM
    0CCC-0CCD:NSM 0CE2-0CE3:NSM 0D00-0D01:NSM 0D3B-0D3C:NSM 0D41-0D44:NSM 0D4D:NSM 0D62-0D63:NSM
    0D81:NSM 0DCA:NSM 0DD2-0DD6:NSM 0E31:NSM 0E34-0E3A:NSM 0E3F:ET 0E47-0E4E:NSM 0EB1:NSM
    0EB4-0EBC:NSM 0EC8-0ECE:NSM 0F18-0F19:NSM 0F35:NSM 0F37:NSM 0F39:NSM 0F3A-0F3D:ON 0F71-0F7E:NSM
    0F80-0F84:NSM 0F86-0F87:NSM 0F8D-0FBC:NSM 0FC6:NSM 102D-1030:NSM 1032-1037:NSM 1039-103A:NSM
    103D-103E:NSM 1058-1059:NSM 105E-1060:NSM 1071-1074:NSM 1082:NSM 1085-1086:NSM 108D:NSM
    109D:NSM 135D-135F:NSM 1390-1399:ON 1400:ON 169B-169C:ON 1712-1714:NSM 1732-1733:NSM
    1752-1753:NSM 1772-1773:NSM 17B7-17BD:NSM 17C6:NSM 17C9-17D3:NSM 17DB:ET 17DD:NSM 17F0-180A:ON
    1885-1886:NSM 18A9:NSM 1920-1922:NSM 1927-1928:NSM 1932:NSM 1939-193B:NSM 1940-1945:ON
    19DE-19FF:ON 1A17-1A18:NSM 1A1B:NSM 1A56:NSM 1A58-1A60:NSM 1A62:NSM 1A65-1A6C:NSM 1A73-1A7F:NSM
    1AB0-1B03:NSM 1B34:NSM 1B36-1B3A:NSM 1B3C:NSM 1B42:NSM 1B6B-1B73:NSM 1B80-1B81:NSM
    1BA2-1BA5:NSM 1BA8-1BA9:NSM 1BAB-1BAD:NSM 1BE6:NSM 1BE8-1BE9:NSM 1BED:NSM 1BEF-1BF1:NSM
    1C2C-1C33:NSM 1C36-1C37:NSM 1CD0-1CD2:NSM 1CD4-1CE0:NSM 1CE2-1CE8:NSM 1CED:NSM 1CF4:NSM
    1CF8-1CF9:NSM 1DC0-1DFF:NSM 200C-200D:BN 2010-2027:ON 2030-2032:ET 2035-2043:ON 2044:CS
    2045-205E:ON 20A0-20C1:ET 20D0-20F0:NSM 2104-2129:ON 212E:ET 213A-214D:ON 218A-2211:ON 2212:ES
    2213:ET 2214-2335:ON 237B-2394:ON 2396-26AB:ON 26AD-27FF:ON 2900-2BFF:ON 2CE5-2CEA:ON
    2CEF-2CF1:NSM 2CF9-2CFF:ON 2D7F:NSM 2DE0-2DFF:NSM 2E00-3004:ON 3008-3020:ON 302A-302D:NSM
    3030:ON 3037:ON 303D-303F:ON 3099-309A:NSM 30A0:ON 30FB:ON 31C0-31E5:ON 4DC0-4DFF:ON
    A490-A4C6:ON A60D-A60F:ON A66F-A672:NSM A673:ON A674-A67D:NSM A67E-A67F:ON A69E-A69F:NSM
    A6F0-A6F1:NSM A700-A721:ON A788:ON A802:NSM A806:NSM A80B:NSM A825-A826:NSM A828-A82B:ON
    A82C:NSM A838-A839:ET A874-A877:ON A8C4-A8C5:NSM A8E0-A8F1:NSM A8FF:NSM A926-A92D:NSM
    A947-A951:NSM A980-A982:NSM A9B3:NSM A9B6-A9B9:NSM A9BC-A9BD:NSM A9E5:NSM AA29-AA2E:NSM
    AA31-AA32:NSM AA35-AA36:NSM AA43:NSM AA4C:NSM AA7C:NSM AAB0:NSM AAB2-AAB4:NSM AAB7-AAB8:NSM
    AABE-AABF:NSM AAC1:NSM AAEC-AAED:NSM AAF6:NSM AB6A-AB6B:ON ABE5:NSM ABE8:NSM ABED:NSM FB1E:NSM
    FBB2-FBC2:AL FBC3-FDFF:ON FE20-FE2F:NSM FE45-FE46:ON FE73:AL 10101:ON 10140-1018C:ON
    10190-101A0:ON 101FD:NSM 102E0:NSM 102E1-102FB:EN 10376-1037A:NSM 10800-1091B:R 1091F:ON
    10920-10A00:R 10A01-10A0F:NSM 10A10-10A35:R 10A38-10A3F:NSM 10A40-10AE4:R 10AE5-10AE6:NSM
    10AEB-10B35:R 10B39-10B3F:ON 10B40-10CFF:R 10D00-10D23:AL 10D24-10D27:NSM 10D30-10D39:AN
    10D40-10D4F:R 10D69-10D6D:NSM 10D6E:ON 10D6F-10D8F:R 10E60-10E7E:AN 10E80-10EA9:R
    10EAB-10EAC:NSM 10EAD-10EB1:R 10EC2-10EC7:AL 10ED0-10ED8:ON 10EFA-10EFF:NSM 10F00-10F27:R
    10F30-10F45:AL 10F46-10F50:NSM 10F51-10F59:AL 10F70-10F81:R 10F82-10F85:NSM 10F86-10FF6:R
    11001:NSM 11038-11046:NSM 11052-11065:ON 11070:NSM 11073-11074:NSM 1107F-11081:NSM
    110B3-110B6:NSM 110B9-110BA:NSM 110C2:NSM 11100-11102:NSM 11127-1112B:NSM 1112D-11134:NSM
    11173:NSM 11180-11181:NSM 111B6-111BE:NSM 111C9-111CC:NSM 111CF:NSM 1122F-11231:NSM 11234:NSM
    11236-11237:NSM 1123E:NSM 11241:NSM 112DF:NSM 112E3-112EA:NSM 11300-11301:NSM 1133B-1133C:NSM
    11340:NSM 11366-11374:NSM 113BB-113C0:NSM 113CE:NSM 113D0:NSM 113D2:NSM 113E1-113E2:NSM
    11438-1143F:NSM 11442-11444:NSM 11446:NSM 1145E:NSM 114B3-114B8:NSM 114BA:NSM 114BF-114C0:NSM
    114C2-114C3:NSM 115B2-115B5:NSM 115BC-115BD:NSM 115BF-115C0:NSM 115DC-115DD:NSM 11633-1163A:NSM
    1163D:NSM 1163F-11640:NSM 11660-1166C:ON 116AB:NSM 116AD:NSM 116B0-116B5:NSM 116B7:NSM
    1171D-1171F:NSM 11722-11725:NSM 11727-1172B:NSM 1182F-11837:NSM 11839-1183A:NSM 1193B-1193C:NSM
    1193E:NSM 11943:NSM 119D4-119DB:NSM 119E0:NSM 11A01-11A06:NSM 11A09-11A0A:NSM 11A33-11A38:NSM
    11A3B-11A3E:NSM 11A47:NSM 11A51-11A56:NSM 11A59-11A5B:NSM 11A8A-11A96:NSM 11A98-11A99:NSM
    11B60:NSM 11B62-11B64:NSM 11B66:NSM 11C30-11C3D:NSM 11C92-11CA7:NSM 11CAA-11CB0:NSM
    11CB2-11CB3:NSM 11CB5-11CB6:NSM 11D31-11D45:NSM 11D47:NSM 11D90-11D91:NSM 11D95:NSM 11D97:NSM
    11EF3-11EF4:NSM 11F00-11F01:NSM 11F36-11F3A:NSM 11F40:NSM 11F42:NSM 11F5A:NSM 11FD5-11FDC:ON
    11FDD-11FE0:ET 11FE1-11FF1:ON 13440:NSM 13447-13455:NSM 1611E-16129:NSM 1612D-1612F:NSM
    16AF0-16AF4:NSM 16B30-16B36:NSM 16F4F:NSM 16F8F-16F92:NSM 16FE2:ON 16FE4:NSM 1BC9D-1BC9E:NSM
    1CC00-1CEF0:ON 1CF00-1CF46:NSM 1D167-1D169:NSM 1D17B-1D182:NSM 1D185-1D18B:NSM 1D1AA-1D1AD:NSM
    1D1E9-1D241:ON 1D242-1D244:NSM 1D245:ON 1D300-1D356:ON 1DA00-1DA36:NSM 1DA3B-1DA6C:NSM
    1DA75:NSM 1DA84:NSM 1DA9B-1DAAF:NSM 1E000-1E08F:NSM 1E130-1E136:NSM 1E2AE:NSM 1E2EC-1E2EF:NSM
    1E2FF:ET 1E4EC-1E4EF:NSM 1E5EE-1E5EF:NSM 1E6E3:NSM 1E6E6:NSM 1E6EE-1E6EF:NSM 1E6F5:NSM
    1E800-1E8CF:R 1E8D0-1E8D6:NSM 1E922-1E943:R 1E944-1E94A:NSM 1E94B-1E95F:R 1EC71-1ED3D:AL
    1EEF0-1F12F:ON 1F16D-1F16F:ON 1F1AD:ON 1F260-1FBFA:ON"

/-- The bidirectional class of a character. -/
def bidiClass (c : Char) : BidiClass := (bidiClasses.value? c).getD .leftToRight

/-- The spans that are written from right to left lie beyond ASCII. -/
private theorem all_bidiClasses :
    bidiClasses.spans.all (fun s => decide (128 ≤ s.first) ||
      !List.contains [.rightToLeft, .arabicLetter, .arabicNumber] s.value) = true := by
  unfold bidiClasses Spans.ofText
  rw [String.toList_ofList, List.all_toArray]
  decide +kernel

/-- No ASCII character is written from right to left. -/
theorem bidiClass_of_ascii {c : Char} (h : c.toNat < 128) :
    [BidiClass.rightToLeft, .arabicLetter, .arabicNumber].contains (bidiClass c) = false := by
  unfold bidiClass Spans.value?
  cases hfind : bidiClasses.find? c with
  | none => rfl
  | some s =>
    obtain ⟨hmem, hfirst, -⟩ := Spans.find?_mem hfind
    have hspan := Array.all_eq_true_iff_forall_mem.mp all_bidiClasses s hmem
    rcases (Bool.or_eq_true _ _).mp hspan with hbeyond | hclass
    · exact absurd (of_decide_eq_true hbeyond) (by omega)
    · exact (Bool.not_eq_true' _).mp hclass

end EndpointPool.Unicode
