import AssetBroker.Unicode.Table

/-!
# Unicode character data

The property tables behind the character classes of `Unicode.Properties`,
in the encoding of `Unicode.Table`. The first five follow the Unicode
Character Database, version 17.0:

* `unprintable`: the code points in the general categories `Cc`, `Cf`,
  `Cs`, `Co`, `Cn`, `Zl`, `Zp` and `Zs`, except the space, and the Hangul
  fillers `U+115F`, `U+1160`, `U+3164` and `U+FFA0`, which show nothing;
* `graphemeExtending`: the `Grapheme_Extend` property, without the
  halfwidth katakana sound marks `U+FF9E` and `U+FF9F`, which are letters
  that take a column of their own;
* `alphanumerical`: the `Alphabetic` property with the numbers `Nd`, `Nl`
  and `No`;
* `zeroWidth`: characters that take no column: `Default_Ignorable_Code_Point`
  and the grapheme extenders above, the Hangul medial vowels and final
  consonants (jamo of types `V` and `T`), the prepending characters of
  `Grapheme_Cluster_Break=Prepend` that are not prepended concatenation
  marks, the prepended concatenation marks `U+0605`, `U+070F`, `U+0890`,
  `U+0891` and `U+08E2`, the Devanagari caret `U+A8FA`, and `U+0B53` in
  the Oriya block, which a later version assigns a sign of no width; but
  not the Hangul choseong filler `U+115F`, which stands for a whole
  syllable, or the Tifinagh consonant joiner `U+2D7F`;
* `wideColumns`: the East Asian widths `W` and `F`, and the Khmer
  independent vowel `U+17A4`;
* `lineBreaking`: the `Line_Break` property of version 15.0, as runs of
  two-letter class names (`ZJ` standing for the zero width joiner class
  `ZWJ`);
* `snippetZeroWidth` and `snippetWideColumns`: the same two width classes
  as `zeroWidth` and `wideColumns`, by the database of version 15.1, which
  the lines of a source snippet are measured with: there the halfwidth
  katakana sound marks still extend graphemes and take no column, the
  Yijing hexagrams and trigrams are narrow, and the characters of later
  versions are unassigned.
-/

namespace AssetBroker

namespace Unicode

/-- Boundaries of the code points a diagnostic literal escapes. -/
def unprintableText : String :=
  "00000000002000007F0000A10000AD0000AE00037800037A00038000038400038B00038C00038D00038E0003A20003A3" ++
  "00053000053100055700055900058B00058D0005900005910005C80005D00005EB0005EF0005F500060600061C00061D" ++
  "0006DD0006DE00070E00071000074B00074D0007B20007C00007FB0007FD00082E00083000083F00084000085C00085E" ++
  "00085F00086000086B0008700008900008970008E20008E300098400098500098D00098F0009910009930009A90009AA" ++
  "0009B10009B20009B30009B60009BA0009BC0009C50009C70009C90009CB0009CF0009D70009D80009DC0009DE0009DF" ++
  "0009E40009E60009FF000A01000A04000A05000A0B000A0F000A11000A13000A29000A2A000A31000A32000A34000A35" ++
  "000A37000A38000A3A000A3C000A3D000A3E000A43000A47000A49000A4B000A4E000A51000A52000A59000A5D000A5E" ++
  "000A5F000A66000A77000A81000A84000A85000A8E000A8F000A92000A93000AA9000AAA000AB1000AB2000AB4000AB5" ++
  "000ABA000ABC000AC6000AC7000ACA000ACB000ACE000AD0000AD1000AE0000AE4000AE6000AF2000AF9000B00000B01" ++
  "000B04000B05000B0D000B0F000B11000B13000B29000B2A000B31000B32000B34000B35000B3A000B3C000B45000B47" ++
  "000B49000B4B000B4E000B55000B58000B5C000B5E000B5F000B64000B66000B78000B82000B84000B85000B8B000B8E" ++
  "000B91000B92000B96000B99000B9B000B9C000B9D000B9E000BA0000BA3000BA5000BA8000BAB000BAE000BBA000BBE" ++
  "000BC3000BC6000BC9000BCA000BCE000BD0000BD1000BD7000BD8000BE6000BFB000C00000C0D000C0E000C11000C12" ++
  "000C29000C2A000C3A000C3C000C45000C46000C49000C4A000C4E000C55000C57000C58000C5B000C5C000C5E000C60" ++
  "000C64000C66000C70000C77000C8D000C8E000C91000C92000CA9000CAA000CB4000CB5000CBA000CBC000CC5000CC6" ++
  "000CC9000CCA000CCE000CD5000CD7000CDC000CDF000CE0000CE4000CE6000CF0000CF1000CF4000D00000D0D000D0E" ++
  "000D11000D12000D45000D46000D49000D4A000D50000D54000D64000D66000D80000D81000D84000D85000D97000D9A" ++
  "000DB2000DB3000DBC000DBD000DBE000DC0000DC7000DCA000DCB000DCF000DD5000DD6000DD7000DD8000DE0000DE6" ++
  "000DF0000DF2000DF5000E01000E3B000E3F000E5C000E81000E83000E84000E85000E86000E8B000E8C000EA4000EA5" ++
  "000EA6000EA7000EBE000EC0000EC5000EC6000EC7000EC8000ECF000ED0000EDA000EDC000EE0000F00000F48000F49" ++
  "000F6D000F71000F98000F99000FBD000FBE000FCD000FCE000FDB0010000010C60010C70010C80010CD0010CE0010D0" ++
  "00115F00116100124900124A00124E00125000125700125800125900125A00125E00126000128900128A00128E001290" ++
  "0012B10012B20012B60012B80012BF0012C00012C10012C20012C60012C80012D70012D8001311001312001316001318" ++
  "00135B00135D00137D00138000139A0013A00013F60013F80013FE00140000168000168100169D0016A00016F9001700" ++
  "00171600171F00173700174000175400176000176D00176E0017710017720017740017800017DE0017E00017EA0017F0" ++
  "0017FA00180000180E00180F00181A0018200018790018800018AB0018B00018F600190000191F00192000192C001930" ++
  "00193C00194000194100194400196E0019700019750019800019AC0019B00019CA0019D00019DB0019DE001A1C001A1E" ++
  "001A5F001A60001A7D001A7F001A8A001A90001A9A001AA0001AAE001AB0001ADE001AE0001AEC001B00001B4D001B4E" ++
  "001BF4001BFC001C38001C3B001C4A001C4D001C8B001C90001CBB001CBD001CC8001CD0001CFB001D00001F16001F18" ++
  "001F1E001F20001F46001F48001F4E001F50001F58001F59001F5A001F5B001F5C001F5D001F5E001F5F001F7E001F80" ++
  "001FB5001FB6001FC5001FC6001FD4001FD6001FDC001FDD001FF0001FF2001FF5001FF6001FFF002010002028002030" ++
  "00205F00207000207200207400208F00209000209D0020A00020C20020D00020F100210000218C00219000242A002440" ++
  "00244B002460002B74002B76002CF4002CF9002D26002D27002D28002D2D002D2E002D30002D68002D6F002D71002D7F" ++
  "002D97002DA0002DA7002DA8002DAF002DB0002DB7002DB8002DBF002DC0002DC7002DC8002DCF002DD0002DD7002DD8" ++
  "002DDF002DE0002E5E002E80002E9A002E9B002EF4002F00002FD6002FF0003000003001003040003041003097003099" ++
  "00310000310500313000313100316400316500318F0031900031E60031EF00321F00322000A48D00A49000A4C700A4D0" ++
  "00A62C00A64000A6F800A70000A7DD00A7F100A82D00A83000A83A00A84000A87800A88000A8C600A8CE00A8DA00A8E0" ++
  "00A95400A95F00A97D00A98000A9CE00A9CF00A9DA00A9DE00A9FF00AA0000AA3700AA4000AA4E00AA5000AA5A00AA5C" ++
  "00AAC300AADB00AAF700AB0100AB0700AB0900AB0F00AB1100AB1700AB2000AB2700AB2800AB2F00AB3000AB6C00AB70" ++
  "00ABEE00ABF000ABFA00AC0000D7A400D7B000D7C700D7CB00D7FC00F90000FA6E00FA7000FADA00FB0000FB0700FB13" ++
  "00FB1800FB1D00FB3700FB3800FB3D00FB3E00FB3F00FB4000FB4200FB4300FB4500FB4600FDD000FDF000FE1A00FE20" ++
  "00FE5300FE5400FE6700FE6800FE6C00FE7000FE7500FE7600FEFD00FF0100FFA000FFA100FFBF00FFC200FFC800FFCA" ++
  "00FFD000FFD200FFD800FFDA00FFDD00FFE000FFE700FFE800FFEF00FFFC00FFFE01000001000C01000D010027010028" ++
  "01003B01003C01003E01003F01004E01005001005E0100800100FB01010001010301010701013401013701018F010190" ++
  "01019D0101A00101A10101D00101FE01028001029D0102A00102D10102E00102FC01030001032401032D01034B010350" ++
  "01037B01038001039E01039F0103C40103C80103D601040001049E0104A00104AA0104B00104D40104D80104FC010500" ++
  "01052801053001056401056F01057B01057C01058B01058C0105930105940105960105970105A20105A30105B20105B3" ++
  "0105BA0105BB0105BD0105C00105F40106000107370107400107560107600107680107800107860107870107B10107B2" ++
  "0107BB01080001080601080801080901080A01083601083701083901083C01083D01083F01085601085701089F0108A7" ++
  "0108B00108E00108F30108F40108F60108FB01091C01091F01093A01093F01095A0109800109B80109BC0109D00109D2" ++
  "010A04010A05010A07010A0C010A14010A15010A18010A19010A36010A38010A3B010A3F010A49010A50010A59010A60" ++
  "010AA0010AC0010AE7010AEB010AF7010B00010B36010B39010B56010B58010B73010B78010B92010B99010B9D010BA9" ++
  "010BB0010C00010C49010C80010CB3010CC0010CF3010CFA010D28010D30010D3A010D40010D66010D69010D86010D8E" ++
  "010D90010E60010E7F010E80010EAA010EAB010EAE010EB0010EB2010EC2010EC8010ED0010ED9010EFA010F28010F30" ++
  "010F5A010F70010F8A010FB0010FCC010FE0010FF701100001104E01105201107601107F0110BD0110BE0110C30110D0" ++
  "0110E90110F00110FA0111000111350111360111480111500111770111800111E00111E10111F5011200011212011213" ++
  "01124201128001128701128801128901128A01128E01128F01129E01129F0112AA0112B00112EB0112F00112FA011300" ++
  "01130401130501130D01130F01131101131301132901132A01133101133201133401133501133A01133B011345011347" ++
  "01134901134B01134E01135001135101135701135801135D01136401136601136D01137001137501138001138A01138B" ++
  "01138C01138E01138F0113900113B60113B70113C10113C20113C30113C50113C60113C70113CB0113CC0113D60113D7" ++
  "0113D90113E10113E301140001145C01145D0114620114800114C80114D00114DA0115800115B60115B80115DE011600" ++
  "01164501165001165A01166001166D0116800116BA0116C00116CA0116D00116E401170001171B01171D01172C011730" ++
  "01174701180001183C0118A00118F30118FF01190701190901190A01190C011914011915011917011918011936011937" ++
  "01193901193B01194701195001195A0119A00119A80119AA0119D80119DA0119E5011A00011A48011A50011AA3011AB0" ++
  "011AF9011B00011B0A011B60011B68011BC0011BE2011BF0011BFA011C00011C09011C0A011C37011C38011C46011C50" ++
  "011C6D011C70011C90011C92011CA8011CA9011CB7011D00011D07011D08011D0A011D0B011D37011D3A011D3B011D3C" ++
  "011D3E011D3F011D48011D50011D5A011D60011D66011D67011D69011D6A011D8F011D90011D92011D93011D99011DA0" ++
  "011DAA011DB0011DDC011DE0011DEA011EE0011EF9011F00011F11011F12011F3B011F3E011F5B011FB0011FB1011FC0" ++
  "011FF2011FFF01239A01240001246F012470012475012480012544012F90012FF3013000013430013440013456013460" ++
  "0143FB01440001464701610001613A016800016A39016A40016A5F016A60016A6A016A6E016ABF016AC0016ACA016AD0" ++
  "016AEE016AF0016AF6016B00016B46016B50016B5A016B5B016B62016B63016B78016B7D016B90016D40016D7A016E40" ++
  "016E9B016EA0016EB9016EBB016ED4016F00016F4B016F4F016F88016F8F016FA0016FE0016FE5016FF0016FF7017000" ++
  "018CD6018CFF018D1F018D80018DF301AFF001AFF401AFF501AFFC01AFFD01AFFF01B00001B12301B13201B13301B150" ++
  "01B15301B15501B15601B16401B16801B17001B2FC01BC0001BC6B01BC7001BC7D01BC8001BC8901BC9001BC9A01BC9C" ++
  "01BCA001CC0001CCFD01CD0001CEB401CEBA01CED101CEE001CEF101CF0001CF2E01CF3001CF4701CF5001CFC401D000" ++
  "01D0F601D10001D12701D12901D17301D17B01D1EB01D20001D24601D2C001D2D401D2E001D2F401D30001D35701D360" ++
  "01D37901D40001D45501D45601D49D01D49E01D4A001D4A201D4A301D4A501D4A701D4A901D4AD01D4AE01D4BA01D4BB" ++
  "01D4BC01D4BD01D4C401D4C501D50601D50701D50B01D50D01D51501D51601D51D01D51E01D53A01D53B01D53F01D540" ++
  "01D54501D54601D54701D54A01D55101D55201D6A601D6A801D7CC01D7CE01DA8C01DA9B01DAA001DAA101DAB001DF00" ++
  "01DF1F01DF2501DF2B01E00001E00701E00801E01901E01B01E02201E02301E02501E02601E02B01E03001E06E01E08F" ++
  "01E09001E10001E12D01E13001E13E01E14001E14A01E14E01E15001E29001E2AF01E2C001E2FA01E2FF01E30001E4D0" ++
  "01E4FA01E5D001E5FB01E5FF01E60001E6C001E6DF01E6E001E6F601E6FE01E70001E7E001E7E701E7E801E7EC01E7ED" ++
  "01E7EF01E7F001E7FF01E80001E8C501E8C701E8D701E90001E94C01E95001E95A01E95E01E96001EC7101ECB501ED01" ++
  "01ED3E01EE0001EE0401EE0501EE2001EE2101EE2301EE2401EE2501EE2701EE2801EE2901EE3301EE3401EE3801EE39" ++
  "01EE3A01EE3B01EE3C01EE4201EE4301EE4701EE4801EE4901EE4A01EE4B01EE4C01EE4D01EE5001EE5101EE5301EE54" ++
  "01EE5501EE5701EE5801EE5901EE5A01EE5B01EE5C01EE5D01EE5E01EE5F01EE6001EE6101EE6301EE6401EE6501EE67" ++
  "01EE6B01EE6C01EE7301EE7401EE7801EE7901EE7D01EE7E01EE7F01EE8001EE8A01EE8B01EE9C01EEA101EEA401EEA5" ++
  "01EEAA01EEAB01EEBC01EEF001EEF201F00001F02C01F03001F09401F0A001F0AF01F0B101F0C001F0C101F0D001F0D1" ++
  "01F0F601F10001F1AE01F1E601F20301F21001F23C01F24001F24901F25001F25201F26001F26601F30001F6D901F6DC" ++
  "01F6ED01F6F001F6FD01F70001F7DA01F7E001F7EC01F7F001F7F101F80001F80C01F81001F84801F85001F85A01F860" ++
  "01F88801F89001F8AE01F8B001F8BC01F8C001F8C201F8D001F8D901F90001FA5801FA6001FA6E01FA7001FA7D01FA80" ++
  "01FA8B01FA8E01FAC701FAC801FAC901FACD01FADD01FADF01FAEB01FAEF01FAF901FB0001FB9301FB9401FBFB020000" ++
  "02A6E002A70002B81E02B82002CEAE02CEB002EBE102EBF002EE5E02F80002FA1E03000003134B03135003347A0E0100" ++
  "0E01F0110000"

/-- Boundaries of the grapheme-extending code points. -/
def graphemeExtendingText : String :=
  "00030000037000048300048A0005910005BE0005BF0005C00005C10005C30005C40005C60005C70005C800061000061B" ++
  "00064B0006600006700006710006D60006DD0006DF0006E50006E70006E90006EA0006EE00071100071200073000074B" ++
  "0007A60007B10007EB0007F40007FD0007FE00081600081A00081B00082400082500082800082900082E00085900085C" ++
  "0008970008A00008CA0008E20008E300090300093A00093B00093C00093D00094100094900094D00094E000951000958" ++
  "0009620009640009810009820009BC0009BD0009BE0009BF0009C10009C50009CD0009CE0009D70009D80009E20009E4" ++
  "0009FE0009FF000A01000A03000A3C000A3D000A41000A43000A47000A49000A4B000A4E000A51000A52000A70000A72" ++
  "000A75000A76000A81000A83000ABC000ABD000AC1000AC6000AC7000AC9000ACD000ACE000AE2000AE4000AFA000B00" ++
  "000B01000B02000B3C000B3D000B3E000B40000B41000B45000B4D000B4E000B55000B58000B62000B64000B82000B83" ++
  "000BBE000BBF000BC0000BC1000BCD000BCE000BD7000BD8000C00000C01000C04000C05000C3C000C3D000C3E000C41" ++
  "000C46000C49000C4A000C4E000C55000C57000C62000C64000C81000C82000CBC000CBD000CBF000CC1000CC2000CC3" ++
  "000CC6000CC9000CCA000CCE000CD5000CD7000CE2000CE4000D00000D02000D3B000D3D000D3E000D3F000D41000D45" ++
  "000D4D000D4E000D57000D58000D62000D64000D81000D82000DCA000DCB000DCF000DD0000DD2000DD5000DD6000DD7" ++
  "000DDF000DE0000E31000E32000E34000E3B000E47000E4F000EB1000EB2000EB4000EBD000EC8000ECF000F18000F1A" ++
  "000F35000F36000F37000F38000F39000F3A000F71000F7F000F80000F85000F86000F88000F8D000F98000F99000FBD" ++
  "000FC6000FC700102D00103100103200103800103900103B00103D00103F00105800105A00105E001061001071001075" ++
  "00108200108300108500108700108D00108E00109D00109E00135D001360001712001716001732001735001752001754" ++
  "0017720017740017B40017B60017B70017BE0017C60017C70017C90017D40017DD0017DE00180B00180E00180F001810" ++
  "0018850018870018A90018AA00192000192300192700192900193200193300193900193C001A17001A19001A1B001A1C" ++
  "001A56001A57001A58001A5F001A60001A61001A62001A63001A65001A6D001A73001A7D001A7F001A80001AB0001ADE" ++
  "001AE0001AEC001B00001B04001B34001B3E001B42001B45001B6B001B74001B80001B82001BA2001BA6001BA8001BAE" ++
  "001BE6001BE7001BE8001BEA001BED001BEE001BEF001BF4001C2C001C34001C36001C38001CD0001CD3001CD4001CE1" ++
  "001CE2001CE9001CED001CEE001CF4001CF5001CF8001CFA001DC0001E0000200C00200D0020D00020F1002CEF002CF2" ++
  "002D7F002D80002DE0002E0000302A00303000309900309B00A66F00A67300A67400A67E00A69E00A6A000A6F000A6F2" ++
  "00A80200A80300A80600A80700A80B00A80C00A82500A82700A82C00A82D00A8C400A8C600A8E000A8F200A8FF00A900" ++
  "00A92600A92E00A94700A95200A95300A95400A98000A98300A9B300A9B400A9B600A9BA00A9BC00A9BE00A9C000A9C1" ++
  "00A9E500A9E600AA2900AA2F00AA3100AA3300AA3500AA3700AA4300AA4400AA4C00AA4D00AA7C00AA7D00AAB000AAB1" ++
  "00AAB200AAB500AAB700AAB900AABE00AAC000AAC100AAC200AAEC00AAEE00AAF600AAF700ABE500ABE600ABE800ABE9" ++
  "00ABED00ABEE00FB1E00FB1F00FE0000FE1000FE2000FE300101FD0101FE0102E00102E101037601037B010A01010A04" ++
  "010A05010A07010A0C010A10010A38010A3B010A3F010A40010AE5010AE7010D24010D28010D69010D6E010EAB010EAD" ++
  "010EFA010F00010F46010F51010F82010F8601100101100201103801104701107001107101107301107501107F011082" ++
  "0110B30110B70110B90110BB0110C20110C301110001110301112701112C01112D011135011173011174011180011182" ++
  "0111B60111BF0111C00111C10111C90111CD0111CF0111D001122F01123201123401123801123E01123F011241011242" ++
  "0112DF0112E00112E30112EB01130001130201133B01133D01133E01133F01134001134101134D01134E011357011358" ++
  "01136601136D0113700113750113B80113B90113BB0113C10113C20113C30113C50113C60113C70113CA0113CE0113D1" ++
  "0113D20113D30113E10113E301143801144001144201144501144601144701145E01145F0114B00114B10114B30114B9" ++
  "0114BA0114BB0114BD0114BE0114BF0114C10114C20114C40115AF0115B00115B20115B60115BC0115BE0115BF0115C1" ++
  "0115DC0115DE01163301163B01163D01163E01163F0116410116AB0116AC0116AD0116AE0116B00116B801171D01171E" ++
  "01171F01172001172201172601172701172C01182F01183801183901183B01193001193101193B01193F011943011944" ++
  "0119D40119D80119DA0119DC0119E00119E1011A01011A0B011A33011A39011A3B011A3F011A47011A48011A51011A57" ++
  "011A59011A5C011A8A011A97011A98011A9A011B60011B61011B62011B65011B66011B67011C30011C37011C38011C3E" ++
  "011C3F011C40011C92011CA8011CAA011CB1011CB2011CB4011CB5011CB7011D31011D37011D3A011D3B011D3C011D3E" ++
  "011D3F011D46011D47011D48011D90011D92011D95011D96011D97011D98011EF3011EF5011F00011F02011F36011F3B" ++
  "011F40011F43011F5A011F5B01344001344101344701345601611E01612A01612D016130016AF0016AF5016B30016B37" ++
  "016F4F016F50016F8F016F93016FE4016FE5016FF0016FF201BC9D01BC9F01CF0001CF2E01CF3001CF4701D16501D16A" ++
  "01D16D01D17301D17B01D18301D18501D18C01D1AA01D1AE01D24201D24501DA0001DA3701DA3B01DA6D01DA7501DA76" ++
  "01DA8401DA8501DA9B01DAA001DAA101DAB001E00001E00701E00801E01901E01B01E02201E02301E02501E02601E02B" ++
  "01E08F01E09001E13001E13701E2AE01E2AF01E2EC01E2F001E4EC01E4F001E5EE01E5F001E6E301E6E401E6E601E6E7" ++
  "01E6EE01E6F001E6F501E6F601E8D001E8D701E94401E94B0E00200E00800E01000E01F0"

/-- Boundaries of the alphabetic and numeric code points. -/
def alphanumericalText : String :=
  "00003000003A00004100005B00006100007B0000AA0000AB0000B20000B40000B50000B60000B90000BB0000BC0000BF" ++
  "0000C00000D70000D80000F70000F80002C20002C60002D20002E00002E50002EC0002ED0002EE0002EF000345000346" ++
  "00036300037500037600037800037A00037E00037F00038000038600038700038800038B00038C00038D00038E0003A2" ++
  "0003A30003F60003F700048200048A00053000053100055700055900055A0005600005890005B00005BE0005BF0005C0" ++
  "0005C10005C30005C40005C60005C70005C80005D00005EB0005EF0005F300061000061B00062000065800065900066A" ++
  "00066E0006D40006D50006DD0006E10006E90006ED0006FD0006FF00070000071000074000074D0007B20007C00007EB" ++
  "0007F40007F60007FA0007FB00080000081800081A00082D00084000085900086000086B000870000888000889000890" ++
  "0008970008980008A00008CA0008D40008E00008E30008EA0008F000093C00093D00094D00094E000951000955000964" ++
  "00096600097000097100098400098500098D00098F0009910009930009A90009AA0009B10009B20009B30009B60009BA" ++
  "0009BD0009C50009C70009C90009CB0009CD0009CE0009CF0009D70009D80009DC0009DE0009DF0009E40009E60009F2" ++
  "0009F40009FA0009FC0009FD000A01000A04000A05000A0B000A0F000A11000A13000A29000A2A000A31000A32000A34" ++
  "000A35000A37000A38000A3A000A3E000A43000A47000A49000A4B000A4D000A51000A52000A59000A5D000A5E000A5F" ++
  "000A66000A76000A81000A84000A85000A8E000A8F000A92000A93000AA9000AAA000AB1000AB2000AB4000AB5000ABA" ++
  "000ABD000AC6000AC7000ACA000ACB000ACD000AD0000AD1000AE0000AE4000AE6000AF0000AF9000AFD000B01000B04" ++
  "000B05000B0D000B0F000B11000B13000B29000B2A000B31000B32000B34000B35000B3A000B3D000B45000B47000B49" ++
  "000B4B000B4D000B56000B58000B5C000B5E000B5F000B64000B66000B70000B71000B78000B82000B84000B85000B8B" ++
  "000B8E000B91000B92000B96000B99000B9B000B9C000B9D000B9E000BA0000BA3000BA5000BA8000BAB000BAE000BBA" ++
  "000BBE000BC3000BC6000BC9000BCA000BCD000BD0000BD1000BD7000BD8000BE6000BF3000C00000C0D000C0E000C11" ++
  "000C12000C29000C2A000C3A000C3D000C45000C46000C49000C4A000C4D000C55000C57000C58000C5B000C5C000C5E" ++
  "000C60000C64000C66000C70000C78000C7F000C80000C84000C85000C8D000C8E000C91000C92000CA9000CAA000CB4" ++
  "000CB5000CBA000CBD000CC5000CC6000CC9000CCA000CCD000CD5000CD7000CDC000CDF000CE0000CE4000CE6000CF0" ++
  "000CF1000CF4000D00000D0D000D0E000D11000D12000D3B000D3D000D45000D46000D49000D4A000D4D000D4E000D4F" ++
  "000D54000D64000D66000D79000D7A000D80000D81000D84000D85000D97000D9A000DB2000DB3000DBC000DBD000DBE" ++
  "000DC0000DC7000DCF000DD5000DD6000DD7000DD8000DE0000DE6000DF0000DF2000DF4000E01000E3B000E40000E47" ++
  "000E4D000E4E000E50000E5A000E81000E83000E84000E85000E86000E8B000E8C000EA4000EA5000EA6000EA7000EBA" ++
  "000EBB000EBE000EC0000EC5000EC6000EC7000ECD000ECE000ED0000EDA000EDC000EE0000F00000F01000F20000F34" ++
  "000F40000F48000F49000F6D000F71000F84000F88000F98000F99000FBD00100000103700103800103900103B00104A" ++
  "00105000109E0010A00010C60010C70010C80010CD0010CE0010D00010FB0010FC00124900124A00124E001250001257" ++
  "00125800125900125A00125E00126000128900128A00128E0012900012B10012B20012B60012B80012BF0012C00012C1" ++
  "0012C20012C60012C80012D70012D800131100131200131600131800135B00136900137D0013800013900013A00013F6" ++
  "0013F80013FE00140100166D00166F00168000168100169B0016A00016EB0016EE0016F900170000171400171F001734" ++
  "00174000175400176000176D00176E0017710017720017740017800017B40017B60017C90017D70017D80017DC0017DD" ++
  "0017E00017EA0017F00017FA00181000181A0018200018790018800018AB0018B00018F600190000191F00192000192C" ++
  "00193000193900194600196E0019700019750019800019AC0019B00019CA0019D00019DB001A00001A1C001A20001A5F" ++
  "001A61001A75001A80001A8A001A90001A9A001AA7001AA8001ABF001AC1001ACC001ACF001B00001B34001B35001B44" ++
  "001B45001B4D001B50001B5A001B80001BAA001BAC001BE6001BE7001BF2001C00001C37001C40001C4A001C4D001C7E" ++
  "001C80001C8B001C90001CBB001CBD001CC0001CE9001CED001CEE001CF4001CF5001CF7001CFA001CFB001D00001DC0" ++
  "001DD3001DF5001E00001F16001F18001F1E001F20001F46001F48001F4E001F50001F58001F59001F5A001F5B001F5C" ++
  "001F5D001F5E001F5F001F7E001F80001FB5001FB6001FBD001FBE001FBF001FC2001FC5001FC6001FCD001FD0001FD4" ++
  "001FD6001FDC001FE0001FED001FF2001FF5001FF6001FFD00207000207200207400207A00207F00208A00209000209D" ++
  "00210200210300210700210800210A00211400211500211600211900211E002124002125002126002127002128002129" ++
  "00212A00212E00212F00213A00213C00214000214500214A00214E00214F00215000218A00246000249C0024B6002500" ++
  "002776002794002C00002CE5002CEB002CEF002CF2002CF4002CFD002CFE002D00002D26002D27002D28002D2D002D2E" ++
  "002D30002D68002D6F002D70002D80002D97002DA0002DA7002DA8002DAF002DB0002DB7002DB8002DBF002DC0002DC7" ++
  "002DC8002DCF002DD0002DD7002DD8002DDF002DE0002E00002E2F002E3000300500300800302100302A003031003036" ++
  "00303800303D00304100309700309D0030A00030A10030FB0030FC00310000310500313000313100318F003192003196" ++
  "0031A00031C00031F000320000322000322A00324800325000325100326000328000328A0032B10032C0003400004DC0" ++
  "004E0000A48D00A4D000A4FE00A50000A60D00A61000A62C00A64000A66F00A67400A67C00A67F00A6F000A71700A720" ++
  "00A72200A78900A78B00A7DD00A7F100A80600A80700A82800A83000A83600A84000A87400A88000A8C400A8C500A8C6" ++
  "00A8D000A8DA00A8F200A8F800A8FB00A8FC00A8FD00A92B00A93000A95300A96000A97D00A98000A9B300A9B400A9C0" ++
  "00A9CF00A9DA00A9E000A9FF00AA0000AA3700AA4000AA4E00AA5000AA5A00AA6000AA7700AA7A00AABF00AAC000AAC1" ++
  "00AAC200AAC300AADB00AADE00AAE000AAF000AAF200AAF600AB0100AB0700AB0900AB0F00AB1100AB1700AB2000AB27" ++
  "00AB2800AB2F00AB3000AB5B00AB5C00AB6A00AB7000ABEB00ABF000ABFA00AC0000D7A400D7B000D7C700D7CB00D7FC" ++
  "00F90000FA6E00FA7000FADA00FB0000FB0700FB1300FB1800FB1D00FB2900FB2A00FB3700FB3800FB3D00FB3E00FB3F" ++
  "00FB4000FB4200FB4300FB4500FB4600FBB200FBD300FD3E00FD5000FD9000FD9200FDC800FDF000FDFC00FE7000FE75" ++
  "00FE7600FEFD00FF1000FF1A00FF2100FF3B00FF4100FF5B00FF6600FFBF00FFC200FFC800FFCA00FFD000FFD200FFD8" ++
  "00FFDA00FFDD01000001000C01000D01002701002801003B01003C01003E01003F01004E01005001005E0100800100FB" ++
  "01010701013401014001017901018A01018C01028001029D0102A00102D10102E10102FC01030001032401032D01034B" ++
  "01035001037B01038001039E0103A00103C40103C80103D00103D10103D601040001049E0104A00104AA0104B00104D4" ++
  "0104D80104FC01050001052801053001056401057001057B01057C01058B01058C0105930105940105960105970105A2" ++
  "0105A30105B20105B30105BA0105BB0105BD0105C00105F4010600010737010740010756010760010768010780010786" ++
  "0107870107B10107B20107BB01080001080601080801080901080A01083601083701083901083C01083D01083F010856" ++
  "01085801087701087901089F0108A70108B00108E00108F30108F40108F60108FB01091C01092001093A01094001095A" ++
  "0109800109B80109BC0109D00109D2010A04010A05010A07010A0C010A14010A15010A18010A19010A36010A40010A49" ++
  "010A60010A7F010A80010AA0010AC0010AC8010AC9010AE5010AEB010AF0010B00010B36010B40010B56010B58010B73" ++
  "010B78010B92010BA9010BB0010C00010C49010C80010CB3010CC0010CF3010CFA010D28010D30010D3A010D40010D66" ++
  "010D69010D6A010D6F010D86010E60010E7F010E80010EAA010EAB010EAD010EB0010EB2010EC2010EC8010EFA010EFD" ++
  "010F00010F28010F30010F46010F51010F55010F70010F82010FB0010FCC010FE0010FF7011000011046011052011070" ++
  "0110710110760110800110B90110C20110C30110D00110E90110F00110FA011100011133011136011140011144011148" ++
  "0111500111730111760111770111800111C00111C10111C50111CE0111DB0111DC0111DD0111E10111F5011200011212" ++
  "01121301123501123701123801123E01124201128001128701128801128901128A01128E01128F01129E01129F0112A9" ++
  "0112B00112E90112F00112FA01130001130401130501130D01130F01131101131301132901132A011331011332011334" ++
  "01133501133A01133D01134501134701134901134B01134D01135001135101135701135801135D01136401138001138A" ++
  "01138B01138C01138E01138F0113900113B60113B70113C10113C20113C30113C50113C60113C70113CB0113CC0113CE" ++
  "0113D10113D20113D30113D401140001144201144301144601144701144B01145001145A01145F0114620114800114C2" ++
  "0114C40114C60114C70114C80114D00114DA0115800115B60115B80115BF0115D80115DE01160001163F011640011641" ++
  "01164401164501165001165A0116800116B60116B80116B90116C00116CA0116D00116E401170001171B01171D01172B" ++
  "01173001173C0117400117470118000118390118A00118F30118FF01190701190901190A01190C011914011915011917" ++
  "01191801193601193701193901193B01193D01193F01194301195001195A0119A00119A80119AA0119D80119DA0119E0" ++
  "0119E10119E20119E30119E5011A00011A33011A35011A3F011A50011A98011A9D011A9E011AB0011AF9011B60011B68" ++
  "011BC0011BE1011BF0011BFA011C00011C09011C0A011C37011C38011C3F011C40011C41011C50011C6D011C72011C90" ++
  "011C92011CA8011CA9011CB7011D00011D07011D08011D0A011D0B011D37011D3A011D3B011D3C011D3E011D3F011D42" ++
  "011D43011D44011D46011D48011D50011D5A011D60011D66011D67011D69011D6A011D8F011D90011D92011D93011D97" ++
  "011D98011D99011DA0011DAA011DB0011DDC011DE0011DEA011EE0011EF7011F00011F11011F12011F3B011F3E011F41" ++
  "011F50011F5A011FB0011FB1011FC0011FD501200001239A01240001246F012480012544012F90012FF1013000013430" ++
  "0134410134470134600143FB01440001464701610001612F01613001613A016800016A39016A40016A5F016A60016A6A" ++
  "016A70016ABF016AC0016ACA016AD0016AEE016B00016B30016B40016B44016B50016B5A016B5B016B62016B63016B78" ++
  "016B7D016B90016D40016D6D016D70016D7A016E40016E97016EA0016EB9016EBB016ED4016F00016F4B016F4F016F88" ++
  "016F8F016FA0016FE0016FE2016FE3016FE4016FF0016FF7017000018CD6018CFF018D1F018D80018DF301AFF001AFF4" ++
  "01AFF501AFFC01AFFD01AFFF01B00001B12301B13201B13301B15001B15301B15501B15601B16401B16801B17001B2FC" ++
  "01BC0001BC6B01BC7001BC7D01BC8001BC8901BC9001BC9A01BC9E01BC9F01CCF001CCFA01D2C001D2D401D2E001D2F4" ++
  "01D36001D37901D40001D45501D45601D49D01D49E01D4A001D4A201D4A301D4A501D4A701D4A901D4AD01D4AE01D4BA" ++
  "01D4BB01D4BC01D4BD01D4C401D4C501D50601D50701D50B01D50D01D51501D51601D51D01D51E01D53A01D53B01D53F" ++
  "01D54001D54501D54601D54701D54A01D55101D55201D6A601D6A801D6C101D6C201D6DB01D6DC01D6FB01D6FC01D715" ++
  "01D71601D73501D73601D74F01D75001D76F01D77001D78901D78A01D7A901D7AA01D7C301D7C401D7CC01D7CE01D800" ++
  "01DF0001DF1F01DF2501DF2B01E00001E00701E00801E01901E01B01E02201E02301E02501E02601E02B01E03001E06E" ++
  "01E08F01E09001E10001E12D01E13701E13E01E14001E14A01E14E01E14F01E29001E2AE01E2C001E2EC01E2F001E2FA" ++
  "01E4D001E4EC01E4F001E4FA01E5D001E5EE01E5F001E5FB01E6C001E6DF01E6E001E6F601E6FE01E70001E7E001E7E7" ++
  "01E7E801E7EC01E7ED01E7EF01E7F001E7FF01E80001E8C501E8C701E8D001E90001E94401E94701E94801E94B01E94C" ++
  "01E95001E95A01EC7101ECAC01ECAD01ECB001ECB101ECB501ED0101ED2E01ED2F01ED3E01EE0001EE0401EE0501EE20" ++
  "01EE2101EE2301EE2401EE2501EE2701EE2801EE2901EE3301EE3401EE3801EE3901EE3A01EE3B01EE3C01EE4201EE43" ++
  "01EE4701EE4801EE4901EE4A01EE4B01EE4C01EE4D01EE5001EE5101EE5301EE5401EE5501EE5701EE5801EE5901EE5A" ++
  "01EE5B01EE5C01EE5D01EE5E01EE5F01EE6001EE6101EE6301EE6401EE6501EE6701EE6B01EE6C01EE7301EE7401EE78" ++
  "01EE7901EE7D01EE7E01EE7F01EE8001EE8A01EE8B01EE9C01EEA101EEA401EEA501EEAA01EEAB01EEBC01F10001F10D" ++
  "01F13001F14A01F15001F16A01F17001F18A01FBF001FBFA02000002A6E002A70002B81E02B82002CEAE02CEB002EBE1" ++
  "02EBF002EE5E02F80002FA1E03000003134B03135003347A"

/-- Boundaries of the code points that take no column. -/
def zeroWidthText : String :=
  "0000AD0000AE00030000037000048300048A0005910005BE0005BF0005C00005C10005C30005C40005C60005C70005C8" ++
  "00060500060600061000061B00061C00061D00064B0006600006700006710006D60006DD0006DF0006E50006E70006E9" ++
  "0006EA0006EE00070F00071000071100071200073000074B0007A60007B10007EB0007F40007FD0007FE00081600081A" ++
  "00081B00082400082500082800082900082E00085900085C0008900008920008970008A00008CA00090300093A00093B" ++
  "00093C00093D00094100094900094D00094E0009510009580009620009640009810009820009BC0009BD0009BE0009BF" ++
  "0009C10009C50009CD0009CE0009D70009D80009E20009E40009FE0009FF000A01000A03000A3C000A3D000A41000A43" ++
  "000A47000A49000A4B000A4E000A51000A52000A70000A72000A75000A76000A81000A83000ABC000ABD000AC1000AC6" ++
  "000AC7000AC9000ACD000ACE000AE2000AE4000AFA000B00000B01000B02000B3C000B3D000B3E000B40000B41000B45" ++
  "000B4D000B4E000B53000B54000B55000B58000B62000B64000B82000B83000BBE000BBF000BC0000BC1000BCD000BCE" ++
  "000BD7000BD8000C00000C01000C04000C05000C3C000C3D000C3E000C41000C46000C49000C4A000C4E000C55000C57" ++
  "000C62000C64000C81000C82000CBC000CBD000CBF000CC1000CC2000CC3000CC6000CC9000CCA000CCE000CD5000CD7" ++
  "000CE2000CE4000D00000D02000D3B000D3D000D3E000D3F000D41000D45000D4D000D4F000D57000D58000D62000D64" ++
  "000D81000D82000DCA000DCB000DCF000DD0000DD2000DD5000DD6000DD7000DDF000DE0000E31000E32000E34000E3B" ++
  "000E47000E4F000EB1000EB2000EB4000EBD000EC8000ECF000F18000F1A000F35000F36000F37000F38000F39000F3A" ++
  "000F71000F7F000F80000F85000F86000F88000F8D000F98000F99000FBD000FC6000FC700102D001031001032001038" ++
  "00103900103B00103D00103F00105800105A00105E00106100107100107500108200108300108500108700108D00108E" ++
  "00109D00109E00116000120000135D0013600017120017160017320017350017520017540017720017740017B40017B6" ++
  "0017B70017BE0017C60017C70017C90017D40017DD0017DE00180B0018100018850018870018A90018AA001920001923" ++
  "00192700192900193200193300193900193C001A17001A19001A1B001A1C001A56001A57001A58001A5F001A60001A61" ++
  "001A62001A63001A65001A6D001A73001A7D001A7F001A80001AB0001ADE001AE0001AEC001B00001B04001B34001B3E" ++
  "001B42001B45001B6B001B74001B80001B82001BA2001BA6001BA8001BAE001BE6001BE7001BE8001BEA001BED001BEE" ++
  "001BEF001BF4001C2C001C34001C36001C38001CD0001CD3001CD4001CE1001CE2001CE9001CED001CEE001CF4001CF5" ++
  "001CF8001CFA001DC0001E0000200B00201000202A00202F0020600020700020D00020F1002CEF002CF2002DE0002E00" ++
  "00302A00303000309900309B00316400316500A66F00A67300A67400A67E00A69E00A6A000A6F000A6F200A80200A803" ++
  "00A80600A80700A80B00A80C00A82500A82700A82C00A82D00A8C400A8C600A8E000A8F200A8FA00A8FB00A8FF00A900" ++
  "00A92600A92E00A94700A95200A95300A95400A98000A98300A9B300A9B400A9B600A9BA00A9BC00A9BE00A9C000A9C1" ++
  "00A9E500A9E600AA2900AA2F00AA3100AA3300AA3500AA3700AA4300AA4400AA4C00AA4D00AA7C00AA7D00AAB000AAB1" ++
  "00AAB200AAB500AAB700AAB900AABE00AAC000AAC100AAC200AAEC00AAEE00AAF600AAF700ABE500ABE600ABE800ABE9" ++
  "00ABED00ABEE00D7B000D7C700D7CB00D7FC00FB1E00FB1F00FE0000FE1000FE2000FE3000FEFF00FF0000FFA000FFA1" ++
  "00FFF000FFF90101FD0101FE0102E00102E101037601037B010A01010A04010A05010A07010A0C010A10010A38010A3B" ++
  "010A3F010A40010AE5010AE7010D24010D28010D69010D6E010EAB010EAD010EFA010F00010F46010F51010F82010F86" ++
  "01100101100201103801104701107001107101107301107501107F0110820110B30110B70110B90110BB0110C20110C3" ++
  "01110001110301112701112C01112D0111350111730111740111800111820111B60111BF0111C00111C10111C20111C4" ++
  "0111C90111CD0111CF0111D001122F01123201123401123801123E01123F0112410112420112DF0112E00112E30112EB" ++
  "01130001130201133B01133D01133E01133F01134001134101134D01134E01135701135801136601136D011370011375" ++
  "0113B80113B90113BB0113C10113C20113C30113C50113C60113C70113CA0113CE0113D30113E10113E3011438011440" ++
  "01144201144501144601144701145E01145F0114B00114B10114B30114B90114BA0114BB0114BD0114BE0114BF0114C1" ++
  "0114C20114C40115AF0115B00115B20115B60115BC0115BE0115BF0115C10115DC0115DE01163301163B01163D01163E" ++
  "01163F0116410116AB0116AC0116AD0116AE0116B00116B801171D01171E01171F01172001172201172601172701172C" ++
  "01182F01183801183901183B01193001193101193B0119400119410119420119430119440119D40119D80119DA0119DC" ++
  "0119E00119E1011A01011A0B011A33011A39011A3B011A3F011A47011A48011A51011A57011A59011A5C011A84011A97" ++
  "011A98011A9A011B60011B61011B62011B65011B66011B67011C30011C37011C38011C3E011C3F011C40011C92011CA8" ++
  "011CAA011CB1011CB2011CB4011CB5011CB7011D31011D37011D3A011D3B011D3C011D3E011D3F011D48011D90011D92" ++
  "011D95011D96011D97011D98011EF3011EF5011F00011F03011F36011F3B011F40011F43011F5A011F5B013440013441" ++
  "01344701345601611E01612A01612D016130016AF0016AF5016B30016B37016F4F016F50016F8F016F93016FE4016FE5" ++
  "016FF0016FF201BC9D01BC9F01BCA001BCA401CF0001CF2E01CF3001CF4701D16501D16A01D16D01D18301D18501D18C" ++
  "01D1AA01D1AE01D24201D24501DA0001DA3701DA3B01DA6D01DA7501DA7601DA8401DA8501DA9B01DAA001DAA101DAB0" ++
  "01E00001E00701E00801E01901E01B01E02201E02301E02501E02601E02B01E08F01E09001E13001E13701E2AE01E2AF" ++
  "01E2EC01E2F001E4EC01E4F001E5EE01E5F001E6E301E6E401E6E601E6E701E6EE01E6F001E6F501E6F601E8D001E8D7" ++
  "01E94401E94B0E00000E1000"

/-- Boundaries of the code points that take two columns. -/
def wideColumnsText : String :=
  "0011000011600017A40017A500231A00231C00232900232B0023E90023ED0023F00023F10023F30023F40025FD0025FF" ++
  "00261400261600263000263800264800265400267F00268000268A0026900026930026940026A10026A20026AA0026AC" ++
  "0026BD0026BF0026C40026C60026CE0026CF0026D40026D50026EA0026EB0026F20026F40026F50026F60026FA0026FB" ++
  "0026FD0026FE00270500270600270A00270C00272800272900274C00274D00274E00274F002753002756002757002758" ++
  "0027950027980027B00027B10027BF0027C0002B1B002B1D002B50002B51002B55002B56002E80002E9A002E9B002EF4" ++
  "002F00002FD6002FF000303F00304100309700309900310000310500313000313100318F0031900031E60031EF00321F" ++
  "00322000324800325000A48D00A49000A4C700A96000A97D00AC0000D7A400F90000FB0000FE1000FE1A00FE3000FE53" ++
  "00FE5400FE6700FE6800FE6C00FF0100FF6100FFE000FFE7016FE0016FE5016FF0016FF7017000018CD6018CFF018D1F" ++
  "018D80018DF301AFF001AFF401AFF501AFFC01AFFD01AFFF01B00001B12301B13201B13301B15001B15301B15501B156" ++
  "01B16401B16801B17001B2FC01D30001D35701D36001D37701F00401F00501F0CF01F0D001F18E01F18F01F19101F19B" ++
  "01F20001F20301F21001F23C01F24001F24901F25001F25201F26001F26601F30001F32101F32D01F33601F33701F37D" ++
  "01F37E01F39401F3A001F3CB01F3CF01F3D401F3E001F3F101F3F401F3F501F3F801F43F01F44001F44101F44201F4FD" ++
  "01F4FF01F53E01F54B01F54F01F55001F56801F57A01F57B01F59501F59701F5A401F5A501F5FB01F65001F68001F6C6" ++
  "01F6CC01F6CD01F6D001F6D301F6D501F6D901F6DC01F6E001F6EB01F6ED01F6F401F6FD01F7E001F7EC01F7F001F7F1" ++
  "01F90C01F93B01F93C01F94601F94701FA0001FA7001FA7D01FA8001FA8B01FA8E01FAC701FAC801FAC901FACD01FADD" ++
  "01FADF01FAEB01FAEF01FAF902000002FFFE03000003FFFE"

/-- Runs of the `Line_Break` classes. -/
def lineBreakingText : String :=
  "000000CM000009BA00000ALF00000BBK00000DCR00000ECM000020SP000021EX000022QU000023AL000024PR000025PO" ++
  "000026AL000027QU000028OP000029CP00002AAL00002BPR00002CIS00002DHY00002EIS00002FSY000030NU00003AIS" ++
  "00003CAL00003FEX000040AL00005BOP00005CPR00005DCP00005EAL00007BOP00007CBA00007DCL00007EAL00007FCM" ++
  "000085NL000086CM0000A0GL0000A1OP0000A2PO0000A3PR0000A6AL0000A7AI0000A9AL0000AAAI0000ABQU0000ACAL" ++
  "0000ADBA0000AEAL0000B0PO0000B1PR0000B2AI0000B4BB0000B5AL0000B6AI0000BBQU0000BCAI0000BFOP0000C0AL" ++
  "0000D7AI0000D8AL0000F7AI0000F8AL0002C7AI0002C8BB0002C9AI0002CCBB0002CDAI0002CEAL0002D0AI0002D1AL" ++
  "0002D8AI0002DCAL0002DDAI0002DEAL0002DFBB0002E0AL000300CM00034FGL000350CM00035CGL000363CM000370AL" ++
  "000378XX00037AAL00037EIS00037FAL000380XX000384AL00038BXX00038CAL00038DXX00038EAL0003A2XX0003A3AL" ++
  "000483CM00048AAL000530XX000531AL000557XX000559AL000589IS00058ABA00058BXX00058DAL00058FPR000590XX" ++
  "000591CM0005BEBA0005BFCM0005C0AL0005C1CM0005C3AL0005C4CM0005C6EX0005C7CM0005C8XX0005D0HL0005EBXX" ++
  "0005EFHL0005F3AL0005F5XX000600AL000609PO00060CIS00060EAL000610CM00061BEX00061CCM00061DEX000620AL" ++
  "00064BCM000660NU00066APO00066BNU00066DAL000670CM000671AL0006D4EX0006D5AL0006D6CM0006DDAL0006DFCM" ++
  "0006E5AL0006E7CM0006E9AL0006EACM0006EEAL0006F0NU0006FAAL00070EXX00070FAL000711CM000712AL000730CM" ++
  "00074BXX00074DAL0007A6CM0007B1AL0007B2XX0007C0NU0007CAAL0007EBCM0007F4AL0007F8IS0007F9EX0007FAAL" ++
  "0007FBXX0007FDCM0007FEPR000800AL000816CM00081AAL00081BCM000824AL000825CM000828AL000829CM00082EXX" ++
  "000830AL00083FXX000840AL000859CM00085CXX00085EAL00085FXX000860AL00086BXX000870AL00088FXX000890AL" ++
  "000892XX000898CM0008A0AL0008CACM0008E2AL0008E3CM000904AL00093ACM00093DAL00093ECM000950AL000951CM" ++
  "000958AL000962CM000964BA000966NU000970AL000981CM000984XX000985AL00098DXX00098FAL000991XX000993AL" ++
  "0009A9XX0009AAAL0009B1XX0009B2AL0009B3XX0009B6AL0009BAXX0009BCCM0009BDAL0009BECM0009C5XX0009C7CM" ++
  "0009C9XX0009CBCM0009CEAL0009CFXX0009D7CM0009D8XX0009DCAL0009DEXX0009DFAL0009E2CM0009E4XX0009E6NU" ++
  "0009F0AL0009F2PO0009F4AL0009F9PO0009FAAL0009FBPR0009FCAL0009FECM0009FFXX000A01CM000A04XX000A05AL" ++
  "000A0BXX000A0FAL000A11XX000A13AL000A29XX000A2AAL000A31XX000A32AL000A34XX000A35AL000A37XX000A38AL" ++
  "000A3AXX000A3CCM000A3DXX000A3ECM000A43XX000A47CM000A49XX000A4BCM000A4EXX000A51CM000A52XX000A59AL" ++
  "000A5DXX000A5EAL000A5FXX000A66NU000A70CM000A72AL000A75CM000A76AL000A77XX000A81CM000A84XX000A85AL" ++
  "000A8EXX000A8FAL000A92XX000A93AL000AA9XX000AAAAL000AB1XX000AB2AL000AB4XX000AB5AL000ABAXX000ABCCM" ++
  "000ABDAL000ABECM000AC6XX000AC7CM000ACAXX000ACBCM000ACEXX000AD0AL000AD1XX000AE0AL000AE2CM000AE4XX" ++
  "000AE6NU000AF0AL000AF1PR000AF2XX000AF9AL000AFACM000B00XX000B01CM000B04XX000B05AL000B0DXX000B0FAL" ++
  "000B11XX000B13AL000B29XX000B2AAL000B31XX000B32AL000B34XX000B35AL000B3AXX000B3CCM000B3DAL000B3ECM" ++
  "000B45XX000B47CM000B49XX000B4BCM000B4EXX000B55CM000B58XX000B5CAL000B5EXX000B5FAL000B62CM000B64XX" ++
  "000B66NU000B70AL000B78XX000B82CM000B83AL000B84XX000B85AL000B8BXX000B8EAL000B91XX000B92AL000B96XX" ++
  "000B99AL000B9BXX000B9CAL000B9DXX000B9EAL000BA0XX000BA3AL000BA5XX000BA8AL000BABXX000BAEAL000BBAXX" ++
  "000BBECM000BC3XX000BC6CM000BC9XX000BCACM000BCEXX000BD0AL000BD1XX000BD7CM000BD8XX000BE6NU000BF0AL" ++
  "000BF9PR000BFAAL000BFBXX000C00CM000C05AL000C0DXX000C0EAL000C11XX000C12AL000C29XX000C2AAL000C3AXX" ++
  "000C3CCM000C3DAL000C3ECM000C45XX000C46CM000C49XX000C4ACM000C4EXX000C55CM000C57XX000C58AL000C5BXX" ++
  "000C5DAL000C5EXX000C60AL000C62CM000C64XX000C66NU000C70XX000C77BB000C78AL000C81CM000C84BB000C85AL" ++
  "000C8DXX000C8EAL000C91XX000C92AL000CA9XX000CAAAL000CB4XX000CB5AL000CBAXX000CBCCM000CBDAL000CBECM" ++
  "000CC5XX000CC6CM000CC9XX000CCACM000CCEXX000CD5CM000CD7XX000CDDAL000CDFXX000CE0AL000CE2CM000CE4XX" ++
  "000CE6NU000CF0XX000CF1AL000CF3CM000CF4XX000D00CM000D04AL000D0DXX000D0EAL000D11XX000D12AL000D3BCM" ++
  "000D3DAL000D3ECM000D45XX000D46CM000D49XX000D4ACM000D4EAL000D50XX000D54AL000D57CM000D58AL000D62CM" ++
  "000D64XX000D66NU000D70AL000D79PO000D7AAL000D80XX000D81CM000D84XX000D85AL000D97XX000D9AAL000DB2XX" ++
  "000DB3AL000DBCXX000DBDAL000DBEXX000DC0AL000DC7XX000DCACM000DCBXX000DCFCM000DD5XX000DD6CM000DD7XX" ++
  "000DD8CM000DE0XX000DE6NU000DF0XX000DF2CM000DF4AL000DF5XX000E01SA000E3BXX000E3FPR000E40SA000E4FAL" ++
  "000E50NU000E5ABA000E5CXX000E81SA000E83XX000E84SA000E85XX000E86SA000E8BXX000E8CSA000EA4XX000EA5SA" ++
  "000EA6XX000EA7SA000EBEXX000EC0SA000EC5XX000EC6SA000EC7XX000EC8SA000ECFXX000ED0NU000EDAXX000EDCSA" ++
  "000EE0XX000F00AL000F01BB000F05AL000F06BB000F08GL000F09BB000F0BBA000F0CGL000F0DEX000F12GL000F13AL" ++
  "000F14EX000F15AL000F18CM000F1AAL000F20NU000F2AAL000F34BA000F35CM000F36AL000F37CM000F38AL000F39CM" ++
  "000F3AOP000F3BCL000F3COP000F3DCL000F3ECM000F40AL000F48XX000F49AL000F6DXX000F71CM000F7FBA000F80CM" ++
  "000F85BA000F86CM000F88AL000F8DCM000F98XX000F99CM000FBDXX000FBEBA000FC0AL000FC6CM000FC7AL000FCDXX" ++
  "000FCEAL000FD0BB000FD2BA000FD3BB000FD4AL000FD9GL000FDBXX001000SA001040NU00104ABA00104CAL001050SA" ++
  "001090NU00109ASA0010A0AL0010C6XX0010C7AL0010C8XX0010CDAL0010CEXX0010D0AL001100JL001160JV0011A8JT" ++
  "001200AL001249XX00124AAL00124EXX001250AL001257XX001258AL001259XX00125AAL00125EXX001260AL001289XX" ++
  "00128AAL00128EXX001290AL0012B1XX0012B2AL0012B6XX0012B8AL0012BFXX0012C0AL0012C1XX0012C2AL0012C6XX" ++
  "0012C8AL0012D7XX0012D8AL001311XX001312AL001316XX001318AL00135BXX00135DCM001360AL001361BA001362AL" ++
  "00137DXX001380AL00139AXX0013A0AL0013F6XX0013F8AL0013FEXX001400BA001401AL001680BA001681AL00169BOP" ++
  "00169CCL00169DXX0016A0AL0016EBBA0016EEAL0016F9XX001700AL001712CM001716XX00171FAL001732CM001735BA" ++
  "001737XX001740AL001752CM001754XX001760AL00176DXX00176EAL001771XX001772CM001774XX001780SA0017D4BA" ++
  "0017D6NS0017D7SA0017D8BA0017D9AL0017DABA0017DBPR0017DCSA0017DEXX0017E0NU0017EAXX0017F0AL0017FAXX" ++
  "001800AL001802EX001804BA001806BB001807AL001808EX00180AAL00180BCM00180EGL00180FCM001810NU00181AXX" ++
  "001820AL001879XX001880AL001885CM001887AL0018A9CM0018AAAL0018ABXX0018B0AL0018F6XX001900AL00191FXX" ++
  "001920CM00192CXX001930CM00193CXX001940AL001941XX001944EX001946NU001950SA00196EXX001970SA001975XX" ++
  "001980SA0019ACXX0019B0SA0019CAXX0019D0NU0019DASA0019DBXX0019DESA0019E0AL001A17CM001A1CXX001A1EAL" ++
  "001A20SA001A5FXX001A60SA001A7DXX001A7FCM001A80NU001A8AXX001A90NU001A9AXX001AA0SA001AAEXX001AB0CM" ++
  "001ACFXX001B00CM001B05AL001B34CM001B45AL001B4DXX001B50NU001B5ABA001B5CAL001B5DBA001B61AL001B6BCM" ++
  "001B74AL001B7DBA001B7FXX001B80CM001B83AL001BA1CM001BAEAL001BB0NU001BBAAL001BE6CM001BF4XX001BFCAL" ++
  "001C24CM001C38XX001C3BBA001C40NU001C4AXX001C4DAL001C50NU001C5AAL001C7EBA001C80AL001C89XX001C90AL" ++
  "001CBBXX001CBDAL001CC8XX001CD0CM001CD3AL001CD4CM001CE9AL001CEDCM001CEEAL001CF4CM001CF5AL001CF7CM" ++
  "001CFAAL001CFBXX001D00AL001DC0CM001DCDGL001DCECM001DFCGL001DFDCM001E00AL001F16XX001F18AL001F1EXX" ++
  "001F20AL001F46XX001F48AL001F4EXX001F50AL001F58XX001F59AL001F5AXX001F5BAL001F5CXX001F5DAL001F5EXX" ++
  "001F5FAL001F7EXX001F80AL001FB5XX001FB6AL001FC5XX001FC6AL001FD4XX001FD6AL001FDCXX001FDDAL001FF0XX" ++
  "001FF2AL001FF5XX001FF6AL001FFDBB001FFEAL001FFFXX002000BA002007GL002008BA00200BZW00200CCM00200DZJ" ++
  "00200ECM002010BA002011GL002012BA002014B2002015AI002017AL002018QU00201AOP00201BQU00201EOP00201FQU" ++
  "002020AI002022AL002024IN002027BA002028BK00202ACM00202FGL002030PO002038AL002039QU00203BAI00203CNS" ++
  "00203EAL002044IS002045OP002046CL002047NS00204AAL002056BA002057PO002058BA00205CAL00205DBA002060WJ" ++
  "002061AL002065XX002066CM002070AL002072XX002074AI002075AL00207DOP00207ECL00207FAI002080AL002081AI" ++
  "002085AL00208DOP00208ECL00208FXX002090AL00209DXX0020A0PR0020A7PO0020A8PR0020B6PO0020B7PR0020BBPO" ++
  "0020BCPR0020BEPO0020BFPR0020C0PO0020C1PR0020D0CM0020F1XX002100AL002103PO002104AL002105AI002106AL" ++
  "002109PO00210AAL002113AI002114AL002116PR002117AL002121AI002123AL00212BAI00212CAL002154AI002156AL" ++
  "00215BAI00215CAL00215EAI00215FAL002160AI00216CAL002170AI00217AAL002189AI00218AAL00218CXX002190AI" ++
  "00219AAL0021D2AI0021D3AL0021D4AI0021D5AL002200AI002201AL002202AI002204AL002207AI002209AL00220BAI" ++
  "00220CAL00220FAI002210AL002211AI002212PR002214AL002215AI002216AL00221AAI00221BAL00221DAI002221AL" ++
  "002223AI002224AL002225AI002226AL002227AI00222DAL00222EAI00222FAL002234AI002238AL00223CAI00223EAL" ++
  "002248AI002249AL00224CAI00224DAL002252AI002253AL002260AI002262AL002264AI002268AL00226AAI00226CAL" ++
  "00226EAI002270AL002282AI002284AL002286AI002288AL002295AI002296AL002299AI00229AAL0022A5AI0022A6AL" ++
  "0022BFAI0022C0AL0022EFIN0022F0AL002308OP002309CL00230AOP00230BCL00230CAL002312AI002313AL00231AID" ++
  "00231CAL002329OP00232ACL00232BAL0023F0ID0023F4AL002427XX002440AL00244BXX002460AI0024FFAL002500AI" ++
  "00254CAL002550AI002575AL002580AI002590AL002592AI002596AL0025A0AI0025A2AL0025A3AI0025AAAL0025B2AI" ++
  "0025B4AL0025B6AI0025B8AL0025BCAI0025BEAL0025C0AI0025C2AL0025C6AI0025C9AL0025CBAI0025CCAL0025CEAI" ++
  "0025D2AL0025E2AI0025E6AL0025EFAI0025F0AL002600ID002604AL002605AI002607AL002609AI00260AAL00260EAI" ++
  "002610AL002614ID002616AI002618ID002619AL00261AID00261DEB00261EID002620AL002639ID00263CAL002640AI" ++
  "002641AL002642AI002643AL002660AI002662AL002663AI002666AL002667AI002668ID002669AI00266BAL00266CAI" ++
  "00266EAL00266FAI002670AL00267FID002680AL00269EAI0026A0AL0026BDID0026C9AI0026CDID0026CEAL0026CFID" ++
  "0026D2AI0026D3ID0026D5AI0026D8ID0026DAAI0026DCID0026DDAI0026DFID0026E2AL0026E3AI0026E4AL0026E8AI" ++
  "0026EAID0026EBAI0026F1ID0026F6AI0026F7ID0026F9EB0026FAID0026FBAI0026FDID002705AL002708ID00270AEB" ++
  "00270EAL002757AI002758AL00275BQU002761AL002762EX002764ID002765AL002768OP002769CL00276AOP00276BCL" ++
  "00276COP00276DCL00276EOP00276FCL002770OP002771CL002772OP002773CL002774OP002775CL002776AI002794AL" ++
  "0027C5OP0027C6CL0027C7AL0027E6OP0027E7CL0027E8OP0027E9CL0027EAOP0027EBCL0027ECOP0027EDCL0027EEOP" ++
  "0027EFCL0027F0AL002983OP002984CL002985OP002986CL002987OP002988CL002989OP00298ACL00298BOP00298CCL" ++
  "00298DOP00298ECL00298FOP002990CL002991OP002992CL002993OP002994CL002995OP002996CL002997OP002998CL" ++
  "002999AL0029D8OP0029D9CL0029DAOP0029DBCL0029DCAL0029FCOP0029FDCL0029FEAL002B55AI002B5AAL002B74XX" ++
  "002B76AL002B96XX002B97AL002CEFCM002CF2AL002CF4XX002CF9EX002CFABA002CFDAL002CFEEX002CFFBA002D00AL" ++
  "002D26XX002D27AL002D28XX002D2DAL002D2EXX002D30AL002D68XX002D6FAL002D70BA002D71XX002D7FCM002D80AL" ++
  "002D97XX002DA0AL002DA7XX002DA8AL002DAFXX002DB0AL002DB7XX002DB8AL002DBFXX002DC0AL002DC7XX002DC8AL" ++
  "002DCFXX002DD0AL002DD7XX002DD8AL002DDFXX002DE0CM002E00QU002E0EBA002E16AL002E17BA002E18OP002E19BA" ++
  "002E1AAL002E1CQU002E1EAL002E20QU002E22OP002E23CL002E24OP002E25CL002E26OP002E27CL002E28OP002E29CL" ++
  "002E2ABA002E2EEX002E2FAL002E30BA002E32AL002E33BA002E35AL002E3AB2002E3CBA002E3FAL002E40BA002E42OP" ++
  "002E43BA002E4BAL002E4CBA002E4DAL002E4EBA002E50AL002E53EX002E55OP002E56CL002E57OP002E58CL002E59OP" ++
  "002E5ACL002E5BOP002E5CCL002E5DBA002E5EXX002E80ID002E9AXX002E9BID002EF4XX002F00ID002FD6XX002FF0ID" ++
  "002FFCXX003000BA003001CL003003ID003005NS003006ID003008OP003009CL00300AOP00300BCL00300COP00300DCL" ++
  "00300EOP00300FCL003010OP003011CL003012ID003014OP003015CL003016OP003017CL003018OP003019CL00301AOP" ++
  "00301BCL00301CNS00301DOP00301ECL003020ID00302ACM003030ID003035CM003036ID00303BNS00303DID003040XX" ++
  "003041CJ003042ID003043CJ003044ID003045CJ003046ID003047CJ003048ID003049CJ00304AID003063CJ003064ID" ++
  "003083CJ003084ID003085CJ003086ID003087CJ003088ID00308ECJ00308FID003095CJ003097XX003099CM00309BNS" ++
  "00309FID0030A0NS0030A1CJ0030A2ID0030A3CJ0030A4ID0030A5CJ0030A6ID0030A7CJ0030A8ID0030A9CJ0030AAID" ++
  "0030C3CJ0030C4ID0030E3CJ0030E4ID0030E5CJ0030E6ID0030E7CJ0030E8ID0030EECJ0030EFID0030F5CJ0030F7ID" ++
  "0030FBNS0030FCCJ0030FDNS0030FFID003100XX003105ID003130XX003131ID00318FXX003190ID0031E4XX0031F0CJ" ++
  "003200ID00321FXX003220ID003248AI003250ID004DC0AL004E00ID00A015NS00A016ID00A48DXX00A490ID00A4C7XX" ++
  "00A4D0AL00A4FEBA00A500AL00A60DBA00A60EEX00A60FBA00A610AL00A620NU00A62AAL00A62CXX00A640AL00A66FCM" ++
  "00A673AL00A674CM00A67EAL00A69ECM00A6A0AL00A6F0CM00A6F2AL00A6F3BA00A6F8XX00A700AL00A7CBXX00A7D0AL" ++
  "00A7D2XX00A7D3AL00A7D4XX00A7D5AL00A7DAXX00A7F2AL00A802CM00A803AL00A806CM00A807AL00A80BCM00A80CAL" ++
  "00A823CM00A828AL00A82CCM00A82DXX00A830AL00A838PO00A839AL00A83AXX00A840AL00A874BB00A876EX00A878XX" ++
  "00A880CM00A882AL00A8B4CM00A8C6XX00A8CEBA00A8D0NU00A8DAXX00A8E0CM00A8F2AL00A8FCBB00A8FDAL00A8FFCM" ++
  "00A900NU00A90AAL00A926CM00A92EBA00A930AL00A947CM00A954XX00A95FAL00A960JL00A97DXX00A980CM00A984AL" ++
  "00A9B3CM00A9C1AL00A9C7BA00A9CAAL00A9CEXX00A9CFAL00A9D0NU00A9DAXX00A9DEAL00A9E0SA00A9F0NU00A9FASA" ++
  "00A9FFXX00AA00AL00AA29CM00AA37XX00AA40AL00AA43CM00AA44AL00AA4CCM00AA4EXX00AA50NU00AA5AXX00AA5CAL" ++
  "00AA5DBA00AA60SA00AAC3XX00AADBSA00AAE0AL00AAEBCM00AAF0BA00AAF2AL00AAF5CM00AAF7XX00AB01AL00AB07XX" ++
  "00AB09AL00AB0FXX00AB11AL00AB17XX00AB20AL00AB27XX00AB28AL00AB2FXX00AB30AL00AB6CXX00AB70AL00ABE3CM" ++
  "00ABEBBA00ABECCM00ABEEXX00ABF0NU00ABFAXX00AC00H200AC01H300AC1CH200AC1DH300AC38H200AC39H300AC54H2" ++
  "00AC55H300AC70H200AC71H300AC8CH200AC8DH300ACA8H200ACA9H300ACC4H200ACC5H300ACE0H200ACE1H300ACFCH2" ++
  "00ACFDH300AD18H200AD19H300AD34H200AD35H300AD50H200AD51H300AD6CH200AD6DH300AD88H200AD89H300ADA4H2" ++
  "00ADA5H300ADC0H200ADC1H300ADDCH200ADDDH300ADF8H200ADF9H300AE14H200AE15H300AE30H200AE31H300AE4CH2" ++
  "00AE4DH300AE68H200AE69H300AE84H200AE85H300AEA0H200AEA1H300AEBCH200AEBDH300AED8H200AED9H300AEF4H2" ++
  "00AEF5H300AF10H200AF11H300AF2CH200AF2DH300AF48H200AF49H300AF64H200AF65H300AF80H200AF81H300AF9CH2" ++
  "00AF9DH300AFB8H200AFB9H300AFD4H200AFD5H300AFF0H200AFF1H300B00CH200B00DH300B028H200B029H300B044H2" ++
  "00B045H300B060H200B061H300B07CH200B07DH300B098H200B099H300B0B4H200B0B5H300B0D0H200B0D1H300B0ECH2" ++
  "00B0EDH300B108H200B109H300B124H200B125H300B140H200B141H300B15CH200B15DH300B178H200B179H300B194H2" ++
  "00B195H300B1B0H200B1B1H300B1CCH200B1CDH300B1E8H200B1E9H300B204H200B205H300B220H200B221H300B23CH2" ++
  "00B23DH300B258H200B259H300B274H200B275H300B290H200B291H300B2ACH200B2ADH300B2C8H200B2C9H300B2E4H2" ++
  "00B2E5H300B300H200B301H300B31CH200B31DH300B338H200B339H300B354H200B355H300B370H200B371H300B38CH2" ++
  "00B38DH300B3A8H200B3A9H300B3C4H200B3C5H300B3E0H200B3E1H300B3FCH200B3FDH300B418H200B419H300B434H2" ++
  "00B435H300B450H200B451H300B46CH200B46DH300B488H200B489H300B4A4H200B4A5H300B4C0H200B4C1H300B4DCH2" ++
  "00B4DDH300B4F8H200B4F9H300B514H200B515H300B530H200B531H300B54CH200B54DH300B568H200B569H300B584H2" ++
  "00B585H300B5A0H200B5A1H300B5BCH200B5BDH300B5D8H200B5D9H300B5F4H200B5F5H300B610H200B611H300B62CH2" ++
  "00B62DH300B648H200B649H300B664H200B665H300B680H200B681H300B69CH200B69DH300B6B8H200B6B9H300B6D4H2" ++
  "00B6D5H300B6F0H200B6F1H300B70CH200B70DH300B728H200B729H300B744H200B745H300B760H200B761H300B77CH2" ++
  "00B77DH300B798H200B799H300B7B4H200B7B5H300B7D0H200B7D1H300B7ECH200B7EDH300B808H200B809H300B824H2" ++
  "00B825H300B840H200B841H300B85CH200B85DH300B878H200B879H300B894H200B895H300B8B0H200B8B1H300B8CCH2" ++
  "00B8CDH300B8E8H200B8E9H300B904H200B905H300B920H200B921H300B93CH200B93DH300B958H200B959H300B974H2" ++
  "00B975H300B990H200B991H300B9ACH200B9ADH300B9C8H200B9C9H300B9E4H200B9E5H300BA00H200BA01H300BA1CH2" ++
  "00BA1DH300BA38H200BA39H300BA54H200BA55H300BA70H200BA71H300BA8CH200BA8DH300BAA8H200BAA9H300BAC4H2" ++
  "00BAC5H300BAE0H200BAE1H300BAFCH200BAFDH300BB18H200BB19H300BB34H200BB35H300BB50H200BB51H300BB6CH2" ++
  "00BB6DH300BB88H200BB89H300BBA4H200BBA5H300BBC0H200BBC1H300BBDCH200BBDDH300BBF8H200BBF9H300BC14H2" ++
  "00BC15H300BC30H200BC31H300BC4CH200BC4DH300BC68H200BC69H300BC84H200BC85H300BCA0H200BCA1H300BCBCH2" ++
  "00BCBDH300BCD8H200BCD9H300BCF4H200BCF5H300BD10H200BD11H300BD2CH200BD2DH300BD48H200BD49H300BD64H2" ++
  "00BD65H300BD80H200BD81H300BD9CH200BD9DH300BDB8H200BDB9H300BDD4H200BDD5H300BDF0H200BDF1H300BE0CH2" ++
  "00BE0DH300BE28H200BE29H300BE44H200BE45H300BE60H200BE61H300BE7CH200BE7DH300BE98H200BE99H300BEB4H2" ++
  "00BEB5H300BED0H200BED1H300BEECH200BEEDH300BF08H200BF09H300BF24H200BF25H300BF40H200BF41H300BF5CH2" ++
  "00BF5DH300BF78H200BF79H300BF94H200BF95H300BFB0H200BFB1H300BFCCH200BFCDH300BFE8H200BFE9H300C004H2" ++
  "00C005H300C020H200C021H300C03CH200C03DH300C058H200C059H300C074H200C075H300C090H200C091H300C0ACH2" ++
  "00C0ADH300C0C8H200C0C9H300C0E4H200C0E5H300C100H200C101H300C11CH200C11DH300C138H200C139H300C154H2" ++
  "00C155H300C170H200C171H300C18CH200C18DH300C1A8H200C1A9H300C1C4H200C1C5H300C1E0H200C1E1H300C1FCH2" ++
  "00C1FDH300C218H200C219H300C234H200C235H300C250H200C251H300C26CH200C26DH300C288H200C289H300C2A4H2" ++
  "00C2A5H300C2C0H200C2C1H300C2DCH200C2DDH300C2F8H200C2F9H300C314H200C315H300C330H200C331H300C34CH2" ++
  "00C34DH300C368H200C369H300C384H200C385H300C3A0H200C3A1H300C3BCH200C3BDH300C3D8H200C3D9H300C3F4H2" ++
  "00C3F5H300C410H200C411H300C42CH200C42DH300C448H200C449H300C464H200C465H300C480H200C481H300C49CH2" ++
  "00C49DH300C4B8H200C4B9H300C4D4H200C4D5H300C4F0H200C4F1H300C50CH200C50DH300C528H200C529H300C544H2" ++
  "00C545H300C560H200C561H300C57CH200C57DH300C598H200C599H300C5B4H200C5B5H300C5D0H200C5D1H300C5ECH2" ++
  "00C5EDH300C608H200C609H300C624H200C625H300C640H200C641H300C65CH200C65DH300C678H200C679H300C694H2" ++
  "00C695H300C6B0H200C6B1H300C6CCH200C6CDH300C6E8H200C6E9H300C704H200C705H300C720H200C721H300C73CH2" ++
  "00C73DH300C758H200C759H300C774H200C775H300C790H200C791H300C7ACH200C7ADH300C7C8H200C7C9H300C7E4H2" ++
  "00C7E5H300C800H200C801H300C81CH200C81DH300C838H200C839H300C854H200C855H300C870H200C871H300C88CH2" ++
  "00C88DH300C8A8H200C8A9H300C8C4H200C8C5H300C8E0H200C8E1H300C8FCH200C8FDH300C918H200C919H300C934H2" ++
  "00C935H300C950H200C951H300C96CH200C96DH300C988H200C989H300C9A4H200C9A5H300C9C0H200C9C1H300C9DCH2" ++
  "00C9DDH300C9F8H200C9F9H300CA14H200CA15H300CA30H200CA31H300CA4CH200CA4DH300CA68H200CA69H300CA84H2" ++
  "00CA85H300CAA0H200CAA1H300CABCH200CABDH300CAD8H200CAD9H300CAF4H200CAF5H300CB10H200CB11H300CB2CH2" ++
  "00CB2DH300CB48H200CB49H300CB64H200CB65H300CB80H200CB81H300CB9CH200CB9DH300CBB8H200CBB9H300CBD4H2" ++
  "00CBD5H300CBF0H200CBF1H300CC0CH200CC0DH300CC28H200CC29H300CC44H200CC45H300CC60H200CC61H300CC7CH2" ++
  "00CC7DH300CC98H200CC99H300CCB4H200CCB5H300CCD0H200CCD1H300CCECH200CCEDH300CD08H200CD09H300CD24H2" ++
  "00CD25H300CD40H200CD41H300CD5CH200CD5DH300CD78H200CD79H300CD94H200CD95H300CDB0H200CDB1H300CDCCH2" ++
  "00CDCDH300CDE8H200CDE9H300CE04H200CE05H300CE20H200CE21H300CE3CH200CE3DH300CE58H200CE59H300CE74H2" ++
  "00CE75H300CE90H200CE91H300CEACH200CEADH300CEC8H200CEC9H300CEE4H200CEE5H300CF00H200CF01H300CF1CH2" ++
  "00CF1DH300CF38H200CF39H300CF54H200CF55H300CF70H200CF71H300CF8CH200CF8DH300CFA8H200CFA9H300CFC4H2" ++
  "00CFC5H300CFE0H200CFE1H300CFFCH200CFFDH300D018H200D019H300D034H200D035H300D050H200D051H300D06CH2" ++
  "00D06DH300D088H200D089H300D0A4H200D0A5H300D0C0H200D0C1H300D0DCH200D0DDH300D0F8H200D0F9H300D114H2" ++
  "00D115H300D130H200D131H300D14CH200D14DH300D168H200D169H300D184H200D185H300D1A0H200D1A1H300D1BCH2" ++
  "00D1BDH300D1D8H200D1D9H300D1F4H200D1F5H300D210H200D211H300D22CH200D22DH300D248H200D249H300D264H2" ++
  "00D265H300D280H200D281H300D29CH200D29DH300D2B8H200D2B9H300D2D4H200D2D5H300D2F0H200D2F1H300D30CH2" ++
  "00D30DH300D328H200D329H300D344H200D345H300D360H200D361H300D37CH200D37DH300D398H200D399H300D3B4H2" ++
  "00D3B5H300D3D0H200D3D1H300D3ECH200D3EDH300D408H200D409H300D424H200D425H300D440H200D441H300D45CH2" ++
  "00D45DH300D478H200D479H300D494H200D495H300D4B0H200D4B1H300D4CCH200D4CDH300D4E8H200D4E9H300D504H2" ++
  "00D505H300D520H200D521H300D53CH200D53DH300D558H200D559H300D574H200D575H300D590H200D591H300D5ACH2" ++
  "00D5ADH300D5C8H200D5C9H300D5E4H200D5E5H300D600H200D601H300D61CH200D61DH300D638H200D639H300D654H2" ++
  "00D655H300D670H200D671H300D68CH200D68DH300D6A8H200D6A9H300D6C4H200D6C5H300D6E0H200D6E1H300D6FCH2" ++
  "00D6FDH300D718H200D719H300D734H200D735H300D750H200D751H300D76CH200D76DH300D788H200D789H300D7A4XX" ++
  "00D7B0JV00D7C7XX00D7CBJT00D7FCXX00D800SG00E000XX00F900ID00FB00AL00FB07XX00FB13AL00FB18XX00FB1DHL" ++
  "00FB1ECM00FB1FHL00FB29AL00FB2AHL00FB37XX00FB38HL00FB3DXX00FB3EHL00FB3FXX00FB40HL00FB42XX00FB43HL" ++
  "00FB45XX00FB46HL00FB50AL00FBC3XX00FBD3AL00FD3ECL00FD3FOP00FD40AL00FD90XX00FD92AL00FDC8XX00FDCFAL" ++
  "00FDD0XX00FDF0AL00FDFCPO00FDFDAL00FE00CM00FE10IS00FE11CL00FE13IS00FE15EX00FE17OP00FE18CL00FE19IN" ++
  "00FE1AXX00FE20CM00FE30ID00FE35OP00FE36CL00FE37OP00FE38CL00FE39OP00FE3ACL00FE3BOP00FE3CCL00FE3DOP" ++
  "00FE3ECL00FE3FOP00FE40CL00FE41OP00FE42CL00FE43OP00FE44CL00FE45ID00FE47OP00FE48CL00FE49ID00FE50CL" ++
  "00FE51ID00FE52CL00FE53XX00FE54NS00FE56EX00FE58ID00FE59OP00FE5ACL00FE5BOP00FE5CCL00FE5DOP00FE5ECL" ++
  "00FE5FID00FE67XX00FE68ID00FE69PR00FE6APO00FE6BID00FE6CXX00FE70AL00FE75XX00FE76AL00FEFDXX00FEFFWJ" ++
  "00FF00XX00FF01EX00FF02ID00FF04PR00FF05PO00FF06ID00FF08OP00FF09CL00FF0AID00FF0CCL00FF0DID00FF0ECL" ++
  "00FF0FID00FF1ANS00FF1CID00FF1FEX00FF20ID00FF3BOP00FF3CID00FF3DCL00FF3EID00FF5BOP00FF5CID00FF5DCL" ++
  "00FF5EID00FF5FOP00FF60CL00FF62OP00FF63CL00FF65NS00FF66ID00FF67CJ00FF71ID00FF9ENS00FFA0ID00FFBFXX" ++
  "00FFC2ID00FFC8XX00FFCAID00FFD0XX00FFD2ID00FFD8XX00FFDAID00FFDDXX00FFE0PO00FFE1PR00FFE2ID00FFE5PR" ++
  "00FFE7XX00FFE8AL00FFEFXX00FFF9CM00FFFCCB00FFFDAI00FFFEXX010000AL01000CXX01000DAL010027XX010028AL" ++
  "01003BXX01003CAL01003EXX01003FAL01004EXX010050AL01005EXX010080AL0100FBXX010100BA010103XX010107AL" ++
  "010134XX010137AL01018FXX010190AL01019DXX0101A0AL0101A1XX0101D0AL0101FDCM0101FEXX010280AL01029DXX" ++
  "0102A0AL0102D1XX0102E0CM0102E1AL0102FCXX010300AL010324XX01032DAL01034BXX010350AL010376CM01037BXX" ++
  "010380AL01039EXX01039FBA0103A0AL0103C4XX0103C8AL0103D0BA0103D1AL0103D6XX010400AL01049EXX0104A0NU" ++
  "0104AAXX0104B0AL0104D4XX0104D8AL0104FCXX010500AL010528XX010530AL010564XX01056FAL01057BXX01057CAL" ++
  "01058BXX01058CAL010593XX010594AL010596XX010597AL0105A2XX0105A3AL0105B2XX0105B3AL0105BAXX0105BBAL" ++
  "0105BDXX010600AL010737XX010740AL010756XX010760AL010768XX010780AL010786XX010787AL0107B1XX0107B2AL" ++
  "0107BBXX010800AL010806XX010808AL010809XX01080AAL010836XX010837AL010839XX01083CAL01083DXX01083FAL" ++
  "010856XX010857BA010858AL01089FXX0108A7AL0108B0XX0108E0AL0108F3XX0108F4AL0108F6XX0108FBAL01091CXX" ++
  "01091FBA010920AL01093AXX01093FAL010940XX010980AL0109B8XX0109BCAL0109D0XX0109D2AL010A01CM010A04XX" ++
  "010A05CM010A07XX010A0CCM010A10AL010A14XX010A15AL010A18XX010A19AL010A36XX010A38CM010A3BXX010A3FCM" ++
  "010A40AL010A49XX010A50BA010A58AL010A59XX010A60AL010AA0XX010AC0AL010AE5CM010AE7XX010AEBAL010AF0BA" ++
  "010AF6IN010AF7XX010B00AL010B36XX010B39BA010B40AL010B56XX010B58AL010B73XX010B78AL010B92XX010B99AL" ++
  "010B9DXX010BA9AL010BB0XX010C00AL010C49XX010C80AL010CB3XX010CC0AL010CF3XX010CFAAL010D24CM010D28XX" ++
  "010D30NU010D3AXX010E60AL010E7FXX010E80AL010EAAXX010EABCM010EADBA010EAEXX010EB0AL010EB2XX010EFDCM" ++
  "010F00AL010F28XX010F30AL010F46CM010F51AL010F5AXX010F70AL010F82CM010F86AL010F8AXX010FB0AL010FCCXX" ++
  "010FE0AL010FF7XX011000CM011003AL011038CM011047BA011049AL01104EXX011052AL011066NU011070CM011071AL" ++
  "011073CM011075AL011076XX01107FCM011083AL0110B0CM0110BBAL0110BEBA0110C2CM0110C3XX0110CDAL0110CEXX" ++
  "0110D0AL0110E9XX0110F0NU0110FAXX011100CM011103AL011127CM011135XX011136NU011140BA011144AL011145CM" ++
  "011147AL011148XX011150AL011173CM011174AL011175BB011176AL011177XX011180CM011183AL0111B3CM0111C1AL" ++
  "0111C5BA0111C7AL0111C8BA0111C9CM0111CDAL0111CECM0111D0NU0111DAAL0111DBBB0111DCAL0111DDBA0111E0XX" ++
  "0111E1AL0111F5XX011200AL011212XX011213AL01122CCM011238BA01123AAL01123BBA01123DAL01123ECM01123FAL" ++
  "011241CM011242XX011280AL011287XX011288AL011289XX01128AAL01128EXX01128FAL01129EXX01129FAL0112A9BA" ++
  "0112AAXX0112B0AL0112DFCM0112EBXX0112F0NU0112FAXX011300CM011304XX011305AL01130DXX01130FAL011311XX" ++
  "011313AL011329XX01132AAL011331XX011332AL011334XX011335AL01133AXX01133BCM01133DAL01133ECM011345XX" ++
  "011347CM011349XX01134BCM01134EXX011350AL011351XX011357CM011358XX01135DAL011362CM011364XX011366CM" ++
  "01136DXX011370CM011375XX011400AL011435CM011447AL01144BBA01144FAL011450NU01145ABA01145CXX01145DAL" ++
  "01145ECM01145FAL011462XX011480AL0114B0CM0114C4AL0114C8XX0114D0NU0114DAXX011580AL0115AFCM0115B6XX" ++
  "0115B8CM0115C1BB0115C2BA0115C4EX0115C6AL0115C9BA0115D8AL0115DCCM0115DEXX011600AL011630CM011641BA" ++
  "011643AL011645XX011650NU01165AXX011660BB01166DXX011680AL0116ABCM0116B8AL0116BAXX0116C0NU0116CAXX" ++
  "011700SA01171BXX01171DSA01172CXX011730NU01173ASA01173CBA01173FSA011747XX011800AL01182CCM01183BAL" ++
  "01183CXX0118A0AL0118E0NU0118EAAL0118F3XX0118FFAL011907XX011909AL01190AXX01190CAL011914XX011915AL" ++
  "011917XX011918AL011930CM011936XX011937CM011939XX01193BCM01193FAL011940CM011941AL011942CM011944BA" ++
  "011947XX011950NU01195AXX0119A0AL0119A8XX0119AAAL0119D1CM0119D8XX0119DACM0119E1AL0119E2BB0119E3AL" ++
  "0119E4CM0119E5XX011A00AL011A01CM011A0BAL011A33CM011A3AAL011A3BCM011A3FBB011A40AL011A41BA011A45BB" ++
  "011A46AL011A47CM011A48XX011A50AL011A51CM011A5CAL011A8ACM011A9ABA011A9DAL011A9EBB011AA1BA011AA3XX" ++
  "011AB0AL011AF9XX011B00BB011B0AXX011C00AL011C09XX011C0AAL011C2FCM011C37XX011C38CM011C40AL011C41BA" ++
  "011C46XX011C50NU011C5AAL011C6DXX011C70BB011C71EX011C72AL011C90XX011C92CM011CA8XX011CA9CM011CB7XX" ++
  "011D00AL011D07XX011D08AL011D0AXX011D0BAL011D31CM011D37XX011D3ACM011D3BXX011D3CCM011D3EXX011D3FCM" ++
  "011D46AL011D47CM011D48XX011D50NU011D5AXX011D60AL011D66XX011D67AL011D69XX011D6AAL011D8ACM011D8FXX" ++
  "011D90CM011D92XX011D93CM011D98AL011D99XX011DA0NU011DAAXX011EE0AL011EF3CM011EF7AL011EF9XX011F00CM" ++
  "011F02AL011F03CM011F04AL011F11XX011F12AL011F34CM011F3BXX011F3ECM011F43BA011F45ID011F50NU011F5AXX" ++
  "011FB0AL011FB1XX011FC0AL011FDDPO011FE1AL011FF2XX011FFFBA012000AL01239AXX012400AL01246FXX012470BA" ++
  "012475XX012480AL012544XX012F90AL012FF3XX013000AL013258OP01325BCL01325EAL013282CL013283AL013286OP" ++
  "013287CL013288OP013289CL01328AAL013379OP01337ACL01337CAL013430GL013437OP013438CL013439GL01343COP" ++
  "01343DCL01343EOP01343FCL013440CM013441AL013447CM013456XX014400AL0145CEOP0145CFCL0145D0AL014647XX" ++
  "016800AL016A39XX016A40AL016A5FXX016A60NU016A6AXX016A6EBA016A70AL016ABFXX016AC0NU016ACAXX016AD0AL" ++
  "016AEEXX016AF0CM016AF5BA016AF6XX016B00AL016B30CM016B37BA016B3AAL016B44BA016B45AL016B46XX016B50NU" ++
  "016B5AXX016B5BAL016B62XX016B63AL016B78XX016B7DAL016B90XX016E40AL016E97BA016E99AL016E9BXX016F00AL" ++
  "016F4BXX016F4FCM016F50AL016F51CM016F88XX016F8FCM016F93AL016FA0XX016FE0NS016FE4GL016FE5XX016FF0CM" ++
  "016FF2XX017000ID0187F8XX018800ID018B00AL018CD6XX018D00ID018D09XX01AFF0AL01AFF4XX01AFF5AL01AFFCXX" ++
  "01AFFDAL01AFFFXX01B000ID01B123XX01B132CJ01B133XX01B150CJ01B153XX01B155CJ01B156XX01B164CJ01B168XX" ++
  "01B170ID01B2FCXX01BC00AL01BC6BXX01BC70AL01BC7DXX01BC80AL01BC89XX01BC90AL01BC9AXX01BC9CAL01BC9DCM" ++
  "01BC9FBA01BCA0CM01BCA4XX01CF00CM01CF2EXX01CF30CM01CF47XX01CF50AL01CFC4XX01D000AL01D0F6XX01D100AL" ++
  "01D127XX01D129AL01D165CM01D16AAL01D16DCM01D183AL01D185CM01D18CAL01D1AACM01D1AEAL01D1EBXX01D200AL" ++
  "01D242CM01D245AL01D246XX01D2C0AL01D2D4XX01D2E0AL01D2F4XX01D300AL01D357XX01D360AL01D379XX01D400AL" ++
  "01D455XX01D456AL01D49DXX01D49EAL01D4A0XX01D4A2AL01D4A3XX01D4A5AL01D4A7XX01D4A9AL01D4ADXX01D4AEAL" ++
  "01D4BAXX01D4BBAL01D4BCXX01D4BDAL01D4C4XX01D4C5AL01D506XX01D507AL01D50BXX01D50DAL01D515XX01D516AL" ++
  "01D51DXX01D51EAL01D53AXX01D53BAL01D53FXX01D540AL01D545XX01D546AL01D547XX01D54AAL01D551XX01D552AL" ++
  "01D6A6XX01D6A8AL01D7CCXX01D7CENU01D800AL01DA00CM01DA37AL01DA3BCM01DA6DAL01DA75CM01DA76AL01DA84CM" ++
  "01DA85AL01DA87BA01DA8BAL01DA8CXX01DA9BCM01DAA0XX01DAA1CM01DAB0XX01DF00AL01DF1FXX01DF25AL01DF2BXX" ++
  "01E000CM01E007XX01E008CM01E019XX01E01BCM01E022XX01E023CM01E025XX01E026CM01E02BXX01E030AL01E06EXX" ++
  "01E08FCM01E090XX01E100AL01E12DXX01E130CM01E137AL01E13EXX01E140NU01E14AXX01E14EAL01E150XX01E290AL" ++
  "01E2AECM01E2AFXX01E2C0AL01E2ECCM01E2F0NU01E2FAXX01E2FFPR01E300XX01E4D0AL01E4ECCM01E4F0NU01E4FAXX" ++
  "01E7E0AL01E7E7XX01E7E8AL01E7ECXX01E7EDAL01E7EFXX01E7F0AL01E7FFXX01E800AL01E8C5XX01E8C7AL01E8D0CM" ++
  "01E8D7XX01E900AL01E944CM01E94BAL01E94CXX01E950NU01E95AXX01E95EOP01E960XX01EC71AL01ECACPO01ECADAL" ++
  "01ECB0PO01ECB1AL01ECB5XX01ED01AL01ED3EXX01EE00AL01EE04XX01EE05AL01EE20XX01EE21AL01EE23XX01EE24AL" ++
  "01EE25XX01EE27AL01EE28XX01EE29AL01EE33XX01EE34AL01EE38XX01EE39AL01EE3AXX01EE3BAL01EE3CXX01EE42AL" ++
  "01EE43XX01EE47AL01EE48XX01EE49AL01EE4AXX01EE4BAL01EE4CXX01EE4DAL01EE50XX01EE51AL01EE53XX01EE54AL" ++
  "01EE55XX01EE57AL01EE58XX01EE59AL01EE5AXX01EE5BAL01EE5CXX01EE5DAL01EE5EXX01EE5FAL01EE60XX01EE61AL" ++
  "01EE63XX01EE64AL01EE65XX01EE67AL01EE6BXX01EE6CAL01EE73XX01EE74AL01EE78XX01EE79AL01EE7DXX01EE7EAL" ++
  "01EE7FXX01EE80AL01EE8AXX01EE8BAL01EE9CXX01EEA1AL01EEA4XX01EEA5AL01EEAAXX01EEABAL01EEBCXX01EEF0AL" ++
  "01EEF2XX01F000ID01F100AI01F10DID01F110AI01F12EAL01F130AI01F16AAL01F16DID01F170AI01F1ADID01F1E6RI" ++
  "01F200ID01F385EB01F386ID01F39CAL01F39EID01F3B5AL01F3B7ID01F3BCAL01F3BDID01F3C2EB01F3C5ID01F3C7EB" ++
  "01F3C8ID01F3CAEB01F3CDID01F3FBEM01F400ID01F442EB01F444ID01F446EB01F451ID01F466EB01F479ID01F47CEB" ++
  "01F47DID01F481EB01F484ID01F485EB01F488ID01F48FEB01F490ID01F491EB01F492ID01F4A0AL01F4A1ID01F4A2AL" ++
  "01F4A3ID01F4A4AL01F4A5ID01F4AAEB01F4ABID01F4AFAL01F4B0ID01F4B1AL01F4B3ID01F500AL01F507ID01F517AL" ++
  "01F525ID01F532AL01F54AID01F574EB01F576ID01F57AEB01F57BID01F590EB01F591ID01F595EB01F597ID01F5D4AL" ++
  "01F5DCID01F5F4AL01F5FAID01F645EB01F648ID01F64BEB01F650AL01F676QU01F679NS01F67CAL01F680ID01F6A3EB" ++
  "01F6A4ID01F6B4EB01F6B7ID01F6C0EB01F6C1ID01F6CCEB01F6CDID01F700AL01F774ID01F780AL01F7D5ID01F800AL" ++
  "01F80CID01F810AL01F848ID01F850AL01F85AID01F860AL01F888ID01F890AL01F8AEID01F900AL01F90CEB01F90DID" ++
  "01F90FEB01F910ID01F918EB01F920ID01F926EB01F927ID01F930EB01F93AID01F93CEB01F93FID01F977EB01F978ID" ++
  "01F9B5EB01F9B7ID01F9B8EB01F9BAID01F9BBEB01F9BCID01F9CDEB01F9D0ID01F9D1EB01F9DEID01FA00AL01FA54ID" ++
  "01FAC3EB01FAC6ID01FAF0EB01FAF9ID01FB00AL01FB93XX01FB94AL01FBCBXX01FBF0NU01FBFAXX01FC00ID01FFFEXX" ++
  "020000ID02FFFEXX030000ID03FFFEXX0E0001CM0E0002XX0E0020CM0E0080XX0E0100CM0E01F0XX110000XX"

/-- Boundaries of the code points that take no column in a source snippet. -/
def snippetZeroWidthText : String :=
  "0000AD0000AE00030000037000048300048A0005910005BE0005BF0005C00005C10005C30005C40005C60005C70005C8" ++
  "00060500060600061000061B00061C00061D00064B0006600006700006710006D60006DD0006DF0006E50006E70006E9" ++
  "0006EA0006EE00070F00071000071100071200073000074B0007A60007B10007EB0007F40007FD0007FE00081600081A" ++
  "00081B00082400082500082800082900082E00085900085C0008900008920008980008A00008CA00090300093A00093B" ++
  "00093C00093D00094100094900094D00094E0009510009580009620009640009810009820009BC0009BD0009BE0009BF" ++
  "0009C10009C50009CD0009CE0009D70009D80009E20009E40009FE0009FF000A01000A03000A3C000A3D000A41000A43" ++
  "000A47000A49000A4B000A4E000A51000A52000A70000A72000A75000A76000A81000A83000ABC000ABD000AC1000AC6" ++
  "000AC7000AC9000ACD000ACE000AE2000AE4000AFA000B00000B01000B02000B3C000B3D000B3E000B40000B41000B45" ++
  "000B4D000B4E000B55000B58000B62000B64000B82000B83000BBE000BBF000BC0000BC1000BCD000BCE000BD7000BD8" ++
  "000C00000C01000C04000C05000C3C000C3D000C3E000C41000C46000C49000C4A000C4E000C55000C57000C62000C64" ++
  "000C81000C82000CBC000CBD000CBF000CC1000CC2000CC3000CC6000CC9000CCA000CCE000CD5000CD7000CE2000CE4" ++
  "000D00000D02000D3B000D3D000D3E000D3F000D41000D45000D4D000D4F000D57000D58000D62000D64000D81000D82" ++
  "000DCA000DCB000DCF000DD0000DD2000DD5000DD6000DD7000DDF000DE0000E31000E32000E34000E3B000E47000E4F" ++
  "000EB1000EB2000EB4000EBD000EC8000ECF000F18000F1A000F35000F36000F37000F38000F39000F3A000F71000F7F" ++
  "000F80000F85000F86000F88000F8D000F98000F99000FBD000FC6000FC700102D00103100103200103800103900103B" ++
  "00103D00103F00105800105A00105E00106100107100107500108200108300108500108700108D00108E00109D00109E" ++
  "00116000120000135D0013600017120017150017320017340017520017540017720017740017B40017B60017B70017BE" ++
  "0017C60017C70017C90017D40017DD0017DE00180B0018100018850018870018A90018AA001920001923001927001929" ++
  "00193200193300193900193C001A17001A19001A1B001A1C001A56001A57001A58001A5F001A60001A61001A62001A63" ++
  "001A65001A6D001A73001A7D001A7F001A80001AB0001ACF001B00001B04001B34001B3E001B42001B44001B6B001B74" ++
  "001B80001B82001BA2001BA6001BA8001BAA001BAB001BAE001BE6001BE7001BE8001BEA001BED001BEE001BEF001BF2" ++
  "001C2C001C34001C36001C38001CD0001CD3001CD4001CE1001CE2001CE9001CED001CEE001CF4001CF5001CF8001CFA" ++
  "001DC0001E0000200B00201000202A00202F0020600020700020D00020F1002CEF002CF2002DE0002E0000302A003030" ++
  "00309900309B00316400316500A66F00A67300A67400A67E00A69E00A6A000A6F000A6F200A80200A80300A80600A807" ++
  "00A80B00A80C00A82500A82700A82C00A82D00A8C400A8C600A8E000A8F200A8FA00A8FB00A8FF00A90000A92600A92E" ++
  "00A94700A95200A98000A98300A9B300A9B400A9B600A9BA00A9BC00A9BE00A9E500A9E600AA2900AA2F00AA3100AA33" ++
  "00AA3500AA3700AA4300AA4400AA4C00AA4D00AA7C00AA7D00AAB000AAB100AAB200AAB500AAB700AAB900AABE00AAC0" ++
  "00AAC100AAC200AAEC00AAEE00AAF600AAF700ABE500ABE600ABE800ABE900ABED00ABEE00D7B000D7C700D7CB00D7FC" ++
  "00FB1E00FB1F00FE0000FE1000FE2000FE3000FEFF00FF0000FF9E00FFA100FFF000FFF90101FD0101FE0102E00102E1" ++
  "01037601037B010A01010A04010A05010A07010A0C010A10010A38010A3B010A3F010A40010AE5010AE7010D24010D28" ++
  "010EAB010EAD010EFD010F00010F46010F51010F82010F86011001011002011038011047011070011071011073011075" ++
  "01107F0110820110B30110B70110B90110BB0110C20110C301110001110301112701112C01112D011135011173011174" ++
  "0111800111820111B60111BF0111C20111C40111C90111CD0111CF0111D001122F011232011234011235011236011238" ++
  "01123E01123F0112410112420112DF0112E00112E30112EB01130001130201133B01133D01133E01133F011340011341" ++
  "01135701135801136601136D01137001137501143801144001144201144501144601144701145E01145F0114B00114B1" ++
  "0114B30114B90114BA0114BB0114BD0114BE0114BF0114C10114C20114C40115AF0115B00115B20115B60115BC0115BE" ++
  "0115BF0115C10115DC0115DE01163301163B01163D01163E01163F0116410116AB0116AC0116AD0116AE0116B00116B6" ++
  "0116B70116B801171D01172001172201172601172701172C01182F01183801183901183B01193001193101193B01193D" ++
  "01193E0119400119410119420119430119440119D40119D80119DA0119DC0119E00119E1011A01011A0B011A33011A39" ++
  "011A3A011A3F011A47011A48011A51011A57011A59011A5C011A84011A97011A98011A9A011C30011C37011C38011C3E" ++
  "011C3F011C40011C92011CA8011CAA011CB1011CB2011CB4011CB5011CB7011D31011D37011D3A011D3B011D3C011D3E" ++
  "011D3F011D48011D90011D92011D95011D96011D97011D98011EF3011EF5011F00011F03011F36011F3B011F40011F41" ++
  "011F42011F43013440013441013447013456016AF0016AF5016B30016B37016F4F016F50016F8F016F93016FE4016FE5" ++
  "01BC9D01BC9F01BCA001BCA401CF0001CF2E01CF3001CF4701D16501D16601D16701D16A01D16E01D18301D18501D18C" ++
  "01D1AA01D1AE01D24201D24501DA0001DA3701DA3B01DA6D01DA7501DA7601DA8401DA8501DA9B01DAA001DAA101DAB0" ++
  "01E00001E00701E00801E01901E01B01E02201E02301E02501E02601E02B01E08F01E09001E13001E13701E2AE01E2AF" ++
  "01E2EC01E2F001E4EC01E4F001E8D001E8D701E94401E94B0E00000E1000"

/-- Boundaries of the code points that take two columns in a source snippet. -/
def snippetWideColumnsText : String :=
  "0011000011600017A40017A500231A00231C00232900232B0023E90023ED0023F00023F10023F30023F40025FD0025FF" ++
  "00261400261600264800265400267F0026800026930026940026A10026A20026AA0026AC0026BD0026BF0026C40026C6" ++
  "0026CE0026CF0026D40026D50026EA0026EB0026F20026F40026F50026F60026FA0026FB0026FD0026FE002705002706" ++
  "00270A00270C00272800272900274C00274D00274E00274F0027530027560027570027580027950027980027B00027B1" ++
  "0027BF0027C0002B1B002B1D002B50002B51002B55002B56002E80002E9A002E9B002EF4002F00002FD6002FF000303F" ++
  "00304100309700309900310000310500313000313100318F0031900031E40031EF00321F003220003248003250004DC0" ++
  "004E0000A48D00A49000A4C700A96000A97D00AC0000D7A400F90000FB0000FE1000FE1A00FE3000FE5300FE5400FE67" ++
  "00FE6800FE6C00FF0100FF6100FFE000FFE7016FE0016FE5016FF0016FF20170000187F8018800018CD6018D00018D09" ++
  "01AFF001AFF401AFF501AFFC01AFFD01AFFF01B00001B12301B13201B13301B15001B15301B15501B15601B16401B168" ++
  "01B17001B2FC01F00401F00501F0CF01F0D001F18E01F18F01F19101F19B01F20001F20301F21001F23C01F24001F249" ++
  "01F25001F25201F26001F26601F30001F32101F32D01F33601F33701F37D01F37E01F39401F3A001F3CB01F3CF01F3D4" ++
  "01F3E001F3F101F3F401F3F501F3F801F43F01F44001F44101F44201F4FD01F4FF01F53E01F54B01F54F01F55001F568" ++
  "01F57A01F57B01F59501F59701F5A401F5A501F5FB01F65001F68001F6C601F6CC01F6CD01F6D001F6D301F6D501F6D8" ++
  "01F6DC01F6E001F6EB01F6ED01F6F401F6FD01F7E001F7EC01F7F001F7F101F90C01F93B01F93C01F94601F94701FA00" ++
  "01FA7001FA7D01FA8001FA8901FA9001FABE01FABF01FAC601FACE01FADC01FAE001FAE901FAF001FAF902000002FFFE" ++
  "03000003FFFE"

end Unicode

end AssetBroker
