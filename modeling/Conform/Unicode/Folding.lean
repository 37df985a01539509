import Conform.Unicode.CharSet

/-! # Case folding

Two characters differ in case only if folding takes them to the same one.  An
entry `A-B/S:T` of the table takes every `S`-th code point from `A` to `B` to the
one that is as far from `T`; all others fold to themselves.
-/
namespace Conform.Unicode

def foldingTable : String :=
  "
    41-5A/1:61 B5-B5/1:3BC C0-D6/1:E0 D8-DE/1:F8 100-12E/2:101 132-136/2:133 139-147/2:13A
    14A-176/2:14B 178-178/1:FF 179-17D/2:17A 17F-17F/1:73 181-181/1:253 182-184/2:183
    186-186/1:254 187-187/1:188 189-18A/1:256 18B-18B/1:18C 18E-18E/1:1DD 18F-18F/1:259
    190-190/1:25B 191-191/1:192 193-193/1:260 194-194/1:263 196-196/1:269 197-197/1:268
    198-198/1:199 19C-19C/1:26F 19D-19D/1:272 19F-19F/1:275 1A0-1A4/2:1A1 1A6-1A6/1:280
    1A7-1A7/1:1A8 1A9-1A9/1:283 1AC-1AC/1:1AD 1AE-1AE/1:288 1AF-1AF/1:1B0 1B1-1B2/1:28A
    1B3-1B5/2:1B4 1B7-1B7/1:292 1B8-1B8/1:1B9 1BC-1BC/1:1BD 1C4-1C4/1:1C6 1C5-1C5/1:1C6
    1C7-1C7/1:1C9 1C8-1C8/1:1C9 1CA-1CA/1:1CC 1CB-1DB/2:1CC 1DE-1EE/2:1DF 1F1-1F1/1:1F3
    1F2-1F4/2:1F3 1F6-1F6/1:195 1F7-1F7/1:1BF 1F8-21E/2:1F9 220-220/1:19E 222-232/2:223
    23A-23A/1:2C65 23B-23B/1:23C 23D-23D/1:19A 23E-23E/1:2C66 241-241/1:242 243-243/1:180
    244-244/1:289 245-245/1:28C 246-24E/2:247 345-345/1:3B9 370-372/2:371 376-376/1:377
    37F-37F/1:3F3 386-386/1:3AC 388-38A/1:3AD 38C-38C/1:3CC 38E-38F/1:3CD 391-3A1/1:3B1
    3A3-3AB/1:3C3 3C2-3C2/1:3C3 3CF-3CF/1:3D7 3D0-3D0/1:3B2 3D1-3D1/1:3B8 3D5-3D5/1:3C6
    3D6-3D6/1:3C0 3D8-3EE/2:3D9 3F0-3F0/1:3BA 3F1-3F1/1:3C1 3F4-3F4/1:3B8 3F5-3F5/1:3B5
    3F7-3F7/1:3F8 3F9-3F9/1:3F2 3FA-3FA/1:3FB 3FD-3FF/1:37B 400-40F/1:450 410-42F/1:430
    460-480/2:461 48A-4BE/2:48B 4C0-4C0/1:4CF 4C1-4CD/2:4C2 4D0-52E/2:4D1 531-556/1:561
    10A0-10C5/1:2D00 10C7-10C7/1:2D27 10CD-10CD/1:2D2D 13F8-13FD/1:13F0 1C80-1C80/1:432
    1C81-1C81/1:434 1C82-1C82/1:43E 1C83-1C84/1:441 1C85-1C85/1:442 1C86-1C86/1:44A
    1C87-1C87/1:463 1C88-1C88/1:A64B 1C89-1C89/1:1C8A 1C90-1CBA/1:10D0 1CBD-1CBF/1:10FD
    1E00-1E94/2:1E01 1E9B-1E9B/1:1E61 1E9E-1E9E/1:DF 1EA0-1EFE/2:1EA1 1F08-1F0F/1:1F00
    1F18-1F1D/1:1F10 1F28-1F2F/1:1F20 1F38-1F3F/1:1F30 1F48-1F4D/1:1F40 1F59-1F5F/2:1F51
    1F68-1F6F/1:1F60 1F88-1F8F/1:1F80 1F98-1F9F/1:1F90 1FA8-1FAF/1:1FA0 1FB8-1FB9/1:1FB0
    1FBA-1FBB/1:1F70 1FBC-1FBC/1:1FB3 1FBE-1FBE/1:3B9 1FC8-1FCB/1:1F72 1FCC-1FCC/1:1FC3
    1FD3-1FD3/1:390 1FD8-1FD9/1:1FD0 1FDA-1FDB/1:1F76 1FE3-1FE3/1:3B0 1FE8-1FE9/1:1FE0
    1FEA-1FEB/1:1F7A 1FEC-1FEC/1:1FE5 1FF8-1FF9/1:1F78 1FFA-1FFB/1:1F7C 1FFC-1FFC/1:1FF3
    2126-2126/1:3C9 212A-212A/1:6B 212B-212B/1:E5 2132-2132/1:214E 2160-216F/1:2170
    2183-2183/1:2184 24B6-24CF/1:24D0 2C00-2C2F/1:2C30 2C60-2C60/1:2C61 2C62-2C62/1:26B
    2C63-2C63/1:1D7D 2C64-2C64/1:27D 2C67-2C6B/2:2C68 2C6D-2C6D/1:251 2C6E-2C6E/1:271
    2C6F-2C6F/1:250 2C70-2C70/1:252 2C72-2C72/1:2C73 2C75-2C75/1:2C76 2C7E-2C7F/1:23F
    2C80-2CE2/2:2C81 2CEB-2CED/2:2CEC 2CF2-2CF2/1:2CF3 A640-A66C/2:A641 A680-A69A/2:A681
    A722-A72E/2:A723 A732-A76E/2:A733 A779-A77B/2:A77A A77D-A77D/1:1D79 A77E-A786/2:A77F
    A78B-A78B/1:A78C A78D-A78D/1:265 A790-A792/2:A791 A796-A7A8/2:A797 A7AA-A7AA/1:266
    A7AB-A7AB/1:25C A7AC-A7AC/1:261 A7AD-A7AD/1:26C A7AE-A7AE/1:26A A7B0-A7B0/1:29E
    A7B1-A7B1/1:287 A7B2-A7B2/1:29D A7B3-A7B3/1:AB53 A7B4-A7C2/2:A7B5 A7C4-A7C4/1:A794
    A7C5-A7C5/1:282 A7C6-A7C6/1:1D8E A7C7-A7C9/2:A7C8 A7CB-A7CB/1:264 A7CC-A7CC/1:A7CD
    A7D0-A7D0/1:A7D1 A7D6-A7DA/2:A7D7 A7DC-A7DC/1:19B A7F5-A7F5/1:A7F6 AB70-ABBF/1:13A0
    FB05-FB05/1:FB06 FF21-FF3A/1:FF41 10400-10427/1:10428 104B0-104D3/1:104D8
    10570-1057A/1:10597 1057C-1058A/1:105A3 1058C-10592/1:105B3 10594-10595/1:105BB
    10C80-10CB2/1:10CC0 10D50-10D65/1:10D70 118A0-118BF/1:118C0 16E40-16E5F/1:16E60
    1E900-1E921/1:1E922"

/-- All code points that fold to another one, with that one. -/
def foldings : List (Nat × Nat) :=
  (CharSet.readEntries foldingTable).flatMap fun
    | [lo, hi, step, target] =>
      (List.range ((hi - lo) / step + 1)).map fun i => (lo + i * step, target + i * step)
    | _ => []

/-- A set with everything that differs in case only from one of its members. -/
def foldClosure (s : CharSet) : CharSet :=
  let down := foldings.filterMap fun f => if s.contains f.1 then some (f.2, f.2) else none
  let folded := s.union (.ofRanges down)
  let up := foldings.filterMap fun f => if folded.contains f.2 then some (f.1, f.1) else none
  folded.union (.ofRanges up)

/-- A set with both cases of its unaccented Latin letters. -/
def asciiFoldClosure (s : CharSet) : CharSet :=
  let letters := (List.range 26).map fun i => (0x41 + i, 0x61 + i)
  let other := letters.flatMap fun l =>
    (if s.contains l.1 then [(l.2, l.2)] else []) ++ (if s.contains l.2 then [(l.1, l.1)] else [])
  s.union (.ofRanges other)

end Conform.Unicode
