import DownloadEngine.Text.CodePointTable

/-!
# Grapheme extenders

The code points with the Grapheme_Extend property, from the Unicode character database
(version 17.0): nonspacing and enclosing marks, and the few others that never begin a
user-perceived character but attach to the one before them.
-/

namespace DownloadEngine.Text

/-- The grapheme extenders, as a table of changes: `1` starts a run of them and `0` ends it. -/
def graphemeExtendText : String :=
  " ".intercalate [
    "0=0 300=1 370=0 483=1 48A=0 591=1 5BE=0 5BF=1 5C0=0 5C1=1 5C3=0 5C4=1 5C6=0 5C7=1 5C8=0",
    "610=1 61B=0 64B=1 660=0 670=1 671=0 6D6=1 6DD=0 6DF=1 6E5=0 6E7=1 6E9=0 6EA=1 6EE=0 711=1",
    "712=0 730=1 74B=0 7A6=1 7B1=0 7EB=1 7F4=0 7FD=1 7FE=0 816=1 81A=0 81B=1 824=0 825=1 828=0",
    "829=1 82E=0 859=1 85C=0 897=1 8A0=0 8CA=1 8E2=0 8E3=1 903=0 93A=1 93B=0 93C=1 93D=0 941=1",
    "949=0 94D=1 94E=0 951=1 958=0 962=1 964=0 981=1 982=0 9BC=1 9BD=0 9BE=1 9BF=0 9C1=1 9C5=0",
    "9CD=1 9CE=0 9D7=1 9D8=0 9E2=1 9E4=0 9FE=1 9FF=0 A01=1 A03=0 A3C=1 A3D=0 A41=1 A43=0 A47=1",
    "A49=0 A4B=1 A4E=0 A51=1 A52=0 A70=1 A72=0 A75=1 A76=0 A81=1 A83=0 ABC=1 ABD=0 AC1=1 AC6=0",
    "AC7=1 AC9=0 ACD=1 ACE=0 AE2=1 AE4=0 AFA=1 B00=0 B01=1 B02=0 B3C=1 B3D=0 B3E=1 B40=0 B41=1",
    "B45=0 B4D=1 B4E=0 B55=1 B58=0 B62=1 B64=0 B82=1 B83=0 BBE=1 BBF=0 BC0=1 BC1=0 BCD=1 BCE=0",
    "BD7=1 BD8=0 C00=1 C01=0 C04=1 C05=0 C3C=1 C3D=0 C3E=1 C41=0 C46=1 C49=0 C4A=1 C4E=0 C55=1",
    "C57=0 C62=1 C64=0 C81=1 C82=0 CBC=1 CBD=0 CBF=1 CC1=0 CC2=1 CC3=0 CC6=1 CC9=0 CCA=1 CCE=0",
    "CD5=1 CD7=0 CE2=1 CE4=0 D00=1 D02=0 D3B=1 D3D=0 D3E=1 D3F=0 D41=1 D45=0 D4D=1 D4E=0 D57=1",
    "D58=0 D62=1 D64=0 D81=1 D82=0 DCA=1 DCB=0 DCF=1 DD0=0 DD2=1 DD5=0 DD6=1 DD7=0 DDF=1 DE0=0",
    "E31=1 E32=0 E34=1 E3B=0 E47=1 E4F=0 EB1=1 EB2=0 EB4=1 EBD=0 EC8=1 ECF=0 F18=1 F1A=0 F35=1",
    "F36=0 F37=1 F38=0 F39=1 F3A=0 F71=1 F7F=0 F80=1 F85=0 F86=1 F88=0 F8D=1 F98=0 F99=1 FBD=0",
    "FC6=1 FC7=0 102D=1 1031=0 1032=1 1038=0 1039=1 103B=0 103D=1 103F=0 1058=1 105A=0 105E=1",
    "1061=0 1071=1 1075=0 1082=1 1083=0 1085=1 1087=0 108D=1 108E=0 109D=1 109E=0 135D=1 1360=0",
    "1712=1 1716=0 1732=1 1735=0 1752=1 1754=0 1772=1 1774=0 17B4=1 17B6=0 17B7=1 17BE=0 17C6=1",
    "17C7=0 17C9=1 17D4=0 17DD=1 17DE=0 180B=1 180E=0 180F=1 1810=0 1885=1 1887=0 18A9=1 18AA=0",
    "1920=1 1923=0 1927=1 1929=0 1932=1 1933=0 1939=1 193C=0 1A17=1 1A19=0 1A1B=1 1A1C=0 1A56=1",
    "1A57=0 1A58=1 1A5F=0 1A60=1 1A61=0 1A62=1 1A63=0 1A65=1 1A6D=0 1A73=1 1A7D=0 1A7F=1 1A80=0",
    "1AB0=1 1ADE=0 1AE0=1 1AEC=0 1B00=1 1B04=0 1B34=1 1B3E=0 1B42=1 1B45=0 1B6B=1 1B74=0 1B80=1",
    "1B82=0 1BA2=1 1BA6=0 1BA8=1 1BAE=0 1BE6=1 1BE7=0 1BE8=1 1BEA=0 1BED=1 1BEE=0 1BEF=1 1BF4=0",
    "1C2C=1 1C34=0 1C36=1 1C38=0 1CD0=1 1CD3=0 1CD4=1 1CE1=0 1CE2=1 1CE9=0 1CED=1 1CEE=0 1CF4=1",
    "1CF5=0 1CF8=1 1CFA=0 1DC0=1 1E00=0 200C=1 200D=0 20D0=1 20F1=0 2CEF=1 2CF2=0 2D7F=1 2D80=0",
    "2DE0=1 2E00=0 302A=1 3030=0 3099=1 309B=0 A66F=1 A673=0 A674=1 A67E=0 A69E=1 A6A0=0 A6F0=1",
    "A6F2=0 A802=1 A803=0 A806=1 A807=0 A80B=1 A80C=0 A825=1 A827=0 A82C=1 A82D=0 A8C4=1 A8C6=0",
    "A8E0=1 A8F2=0 A8FF=1 A900=0 A926=1 A92E=0 A947=1 A952=0 A953=1 A954=0 A980=1 A983=0 A9B3=1",
    "A9B4=0 A9B6=1 A9BA=0 A9BC=1 A9BE=0 A9C0=1 A9C1=0 A9E5=1 A9E6=0 AA29=1 AA2F=0 AA31=1 AA33=0",
    "AA35=1 AA37=0 AA43=1 AA44=0 AA4C=1 AA4D=0 AA7C=1 AA7D=0 AAB0=1 AAB1=0 AAB2=1 AAB5=0 AAB7=1",
    "AAB9=0 AABE=1 AAC0=0 AAC1=1 AAC2=0 AAEC=1 AAEE=0 AAF6=1 AAF7=0 ABE5=1 ABE6=0 ABE8=1 ABE9=0",
    "ABED=1 ABEE=0 FB1E=1 FB1F=0 FE00=1 FE10=0 FE20=1 FE30=0 FF9E=1 FFA0=0 101FD=1 101FE=0",
    "102E0=1 102E1=0 10376=1 1037B=0 10A01=1 10A04=0 10A05=1 10A07=0 10A0C=1 10A10=0 10A38=1",
    "10A3B=0 10A3F=1 10A40=0 10AE5=1 10AE7=0 10D24=1 10D28=0 10D69=1 10D6E=0 10EAB=1 10EAD=0",
    "10EFA=1 10F00=0 10F46=1 10F51=0 10F82=1 10F86=0 11001=1 11002=0 11038=1 11047=0 11070=1",
    "11071=0 11073=1 11075=0 1107F=1 11082=0 110B3=1 110B7=0 110B9=1 110BB=0 110C2=1 110C3=0",
    "11100=1 11103=0 11127=1 1112C=0 1112D=1 11135=0 11173=1 11174=0 11180=1 11182=0 111B6=1",
    "111BF=0 111C0=1 111C1=0 111C9=1 111CD=0 111CF=1 111D0=0 1122F=1 11232=0 11234=1 11238=0",
    "1123E=1 1123F=0 11241=1 11242=0 112DF=1 112E0=0 112E3=1 112EB=0 11300=1 11302=0 1133B=1",
    "1133D=0 1133E=1 1133F=0 11340=1 11341=0 1134D=1 1134E=0 11357=1 11358=0 11366=1 1136D=0",
    "11370=1 11375=0 113B8=1 113B9=0 113BB=1 113C1=0 113C2=1 113C3=0 113C5=1 113C6=0 113C7=1",
    "113CA=0 113CE=1 113D1=0 113D2=1 113D3=0 113E1=1 113E3=0 11438=1 11440=0 11442=1 11445=0",
    "11446=1 11447=0 1145E=1 1145F=0 114B0=1 114B1=0 114B3=1 114B9=0 114BA=1 114BB=0 114BD=1",
    "114BE=0 114BF=1 114C1=0 114C2=1 114C4=0 115AF=1 115B0=0 115B2=1 115B6=0 115BC=1 115BE=0",
    "115BF=1 115C1=0 115DC=1 115DE=0 11633=1 1163B=0 1163D=1 1163E=0 1163F=1 11641=0 116AB=1",
    "116AC=0 116AD=1 116AE=0 116B0=1 116B8=0 1171D=1 1171E=0 1171F=1 11720=0 11722=1 11726=0",
    "11727=1 1172C=0 1182F=1 11838=0 11839=1 1183B=0 11930=1 11931=0 1193B=1 1193F=0 11943=1",
    "11944=0 119D4=1 119D8=0 119DA=1 119DC=0 119E0=1 119E1=0 11A01=1 11A0B=0 11A33=1 11A39=0",
    "11A3B=1 11A3F=0 11A47=1 11A48=0 11A51=1 11A57=0 11A59=1 11A5C=0 11A8A=1 11A97=0 11A98=1",
    "11A9A=0 11B60=1 11B61=0 11B62=1 11B65=0 11B66=1 11B67=0 11C30=1 11C37=0 11C38=1 11C3E=0",
    "11C3F=1 11C40=0 11C92=1 11CA8=0 11CAA=1 11CB1=0 11CB2=1 11CB4=0 11CB5=1 11CB7=0 11D31=1",
    "11D37=0 11D3A=1 11D3B=0 11D3C=1 11D3E=0 11D3F=1 11D46=0 11D47=1 11D48=0 11D90=1 11D92=0",
    "11D95=1 11D96=0 11D97=1 11D98=0 11EF3=1 11EF5=0 11F00=1 11F02=0 11F36=1 11F3B=0 11F40=1",
    "11F43=0 11F5A=1 11F5B=0 13440=1 13441=0 13447=1 13456=0 1611E=1 1612A=0 1612D=1 16130=0",
    "16AF0=1 16AF5=0 16B30=1 16B37=0 16F4F=1 16F50=0 16F8F=1 16F93=0 16FE4=1 16FE5=0 16FF0=1",
    "16FF2=0 1BC9D=1 1BC9F=0 1CF00=1 1CF2E=0 1CF30=1 1CF47=0 1D165=1 1D16A=0 1D16D=1 1D173=0",
    "1D17B=1 1D183=0 1D185=1 1D18C=0 1D1AA=1 1D1AE=0 1D242=1 1D245=0 1DA00=1 1DA37=0 1DA3B=1",
    "1DA6D=0 1DA75=1 1DA76=0 1DA84=1 1DA85=0 1DA9B=1 1DAA0=0 1DAA1=1 1DAB0=0 1E000=1 1E007=0",
    "1E008=1 1E019=0 1E01B=1 1E022=0 1E023=1 1E025=0 1E026=1 1E02B=0 1E08F=1 1E090=0 1E130=1",
    "1E137=0 1E2AE=1 1E2AF=0 1E2EC=1 1E2F0=0 1E4EC=1 1E4F0=0 1E5EE=1 1E5F0=0 1E6E3=1 1E6E4=0",
    "1E6E6=1 1E6E7=0 1E6EE=1 1E6F0=0 1E6F5=1 1E6F6=0 1E8D0=1 1E8D7=0 1E944=1 1E94B=0 E0020=1",
    "E0080=0 E0100=1 E01F0=0"]

/-- The grapheme extender table. -/
def graphemeExtendTable : CodePointTable Bool :=
  CodePointTable.ofText false (· == "1") graphemeExtendText

/-- Whether a character extends the grapheme before it. -/
def isGraphemeExtend (c : Char) : Bool := graphemeExtendTable.get c.toNat

end DownloadEngine.Text
