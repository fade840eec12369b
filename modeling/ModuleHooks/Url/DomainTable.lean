/-!
# Characters of domain names

The data behind `Url.Domain`. A word of `mappingWords` begins with the distance from the
end of the previous word's run. Then `=` gives the code points that one is mapped to,
`#` a number of code points with the same image, `*` a number of code points that are
mapped to consecutive ones, and `/` a number of code points, every other one, that are
mapped to their neighbours.

All the other lists are sets or properties as `CodePoints` reads them.
-/

namespace ModuleHooks.Domain.Table

/-- What characters are mapped to. -/
def mappingWords : List String := [
  "41*1A=61 45=20 7=20+308 1=61 2= 1=20+304 2*2=32 0=20+301 0=3BC 2=20+327 0=31 0=6F",
  "1=31+2044+34 0=31+2044+32 0=33+2044+34 1*17=E0 1*7=F8 21/18 1=69+307 1#2=69+6A 0/2 2/3",
  "1#2=6C+B7 0/4 1=2BC+6E 0/17 1=FF 0/3 1=73 1=253 0/2 1=254 0=188 1*2=256 0=18C 2=1DD",
  "0=259 0=25B 0=192 1=260 0=263 1=269 0=268 0=199 3=26F 0=272 1=275 0/3 1=280 0=1A8 1=283",
  "2=1AD 1=288 0=1B0 1*2=28A 0/2 1=292 0=1B9 3=1BD 7#3=64+17E 0#3=6C+6A 0#3=6E+6A 0/8 2/9",
  "2#3=64+7A 0=1F5 1=195 0=1BF 0/14 1=19E 1/9 7=2C65 0=23C 1=19A 0=2C66 2=242 1=180 0=289",
  "0=28C 0/5 61=68 0=266 0=6A 0=72 0=279 0=27B 0=281 0=77 0=79 1F=20+306 0=20+307 0=20+30A",
  "0=20+328 0=20+303 0=20+30B 2=263 0=6C 0=73 0=78 0=295 5B*2=300 1=313 0=308+301 0=3B9 9=",
  "20/2 1=2B9 1=377 3=20+3B9 3=3B 0=3F3 4=20+301 0=20+308+301 0=3AC 0=B7 0*3=3AD 1=3CC",
  "1*2=3CD 1*11=3B1 1*9=3C3 23=3D7 0=3B2 0=3B8 0=3C5 0=3CD 0=3CB 0=3C6 0=3C0 1/C 1=3BA",
  "0=3C1 0=3C3 1=3B8 0=3B5 1=3F8 1=3C3 0=3FB 2*3=37B 0*10=450 0*20=430 30/11 9/1B 1=4CF 0/7",
  "2/30 2*26=561 30=565+582 ED=627+674 0=648+674 0=6C7+674 0=64A+674 2DF=915+93C 0=916+93C",
  "0=917+93C 0=91C+93C 0=921+93C 0=922+93C 0=92B+93C 0=92F+93C 7C=9A1+9BC 0=9A2+9BC",
  "1=9AF+9BC 53=A32+A3C 2=A38+A3C 22=A16+A3C 0=A17+A3C 0=A1C+A3C 2=A2B+A3C FD=B21+B3C",
  "0=B22+B3C 2D5=E4D+E32 7F=ECD+EB2 28=EAB+E99 0=EAB+EA1 2E=F0B 36=F42+FB7 9=F4C+FB7",
  "4=F51+FB7 4=F56+FB7 4=F5B+FB7 C=F40+FB5 9=F71+F72 1=F71+F74 0=FB2+F80 0=FB2+F71+F80",
  "0=FB3+F80 0=FB3+F71+F80 7=F71+F80 11=F92+FB7 9=F9C+FB7 4=FA1+FB7 4=FA6+FB7 4=FAB+FB7",
  "C=F90+FB5 E6*26=2D00 1=2D27 5=2D2D 2E=10DC 62#2= 297*6=13F0 3B6#2= 55#5= 470=432 0=434",
  "0=43E 0*2=441 0=442 0=44A 0=463 0=A64B 0=1C8A 6*2B=10D0 2*3=10FD 6C=61 0=E6 0=62 1*2=64",
  "0=1DD 0*8=67 1=6F 0=223 0=70 0=72 0*2=74 0=77 0=61 0*2=250 0=1D02 0=62 0*2=64 0=259",
  "0*2=25B 0=67 1=6B 0=6D 0=14B 0=6F 0=254 0*2=1D16 0=70 0*2=74 0=1D1D 0=26F 0=76 0=1D25",
  "0*3=3B2 0*2=3C6 0=69 0=72 0*2=75 0*2=3B2 0=3C1 0*2=3C6 D=43D 22=252 0=63 0=255 0=F0",
  "0=25C 0=66 0=25F 0=261 0=265 0*3=268 0=1D7B 0=29D 0=26D 0=1D85 0=29F 0=271 0=270 0*4=272",
  "0=278 0*2=282 0=1AB 0*2=289 0=1D1C 0*2=28B 0=7A 0*3=290 0=3B8 40/4B 5=61+2BE 0=1E61 2=DF",
  "1/30 9*8=1F00 8*6=1F10 A*8=1F20 8*8=1F30 8*6=1F40 B=1F51 1=1F53 1=1F55 1=1F57 8*8=1F60",
  "1=3AC 1=3AD 1=3AE 1=3AF 1=3CC 1=3CD 1=3CE 2=1F00+3B9 0=1F01+3B9 0=1F02+3B9 0=1F03+3B9",
  "0=1F04+3B9 0=1F05+3B9 0=1F06+3B9 0=1F07+3B9 0=1F00+3B9 0=1F01+3B9 0=1F02+3B9 0=1F03+3B9",
  "0=1F04+3B9 0=1F05+3B9 0=1F06+3B9 0=1F07+3B9 0=1F20+3B9 0=1F21+3B9 0=1F22+3B9 0=1F23+3B9",
  "0=1F24+3B9 0=1F25+3B9 0=1F26+3B9 0=1F27+3B9 0=1F20+3B9 0=1F21+3B9 0=1F22+3B9 0=1F23+3B9",
  "0=1F24+3B9 0=1F25+3B9 0=1F26+3B9 0=1F27+3B9 0=1F60+3B9 0=1F61+3B9 0=1F62+3B9 0=1F63+3B9",
  "0=1F64+3B9 0=1F65+3B9 0=1F66+3B9 0=1F67+3B9 0=1F60+3B9 0=1F61+3B9 0=1F62+3B9 0=1F63+3B9",
  "0=1F64+3B9 0=1F65+3B9 0=1F66+3B9 0=1F67+3B9 2=1F70+3B9 0=3B1+3B9 0=3AC+3B9 2=1FB6+3B9",
  "0*2=1FB0 0=1F70 0=3AC 0=3B1+3B9 0=20+313 0=3B9 0=20+313 0=20+342 0=20+308+342 0=1F74+3B9",
  "0=3B7+3B9 0=3AE+3B9 2=1FC6+3B9 0=1F72 0=3AD 0=1F74 0=3AE 0=3B7+3B9 0=20+313+300",
  "0=20+313+301 0=20+313+342 3=390 4*2=1FD0 0=1F76 0=3AF 1=20+314+300 0=20+314+301",
  "0=20+314+342 3=3B0 4*2=1FE0 0=1F7A 0=3CD 0=1FE5 0=20+308+300 0=20+308+301 0=60",
  "2=1F7C+3B9 0=3C9+3B9 0=3CE+3B9 2=1FF6+3B9 0=1F78 0=3CC 0=1F7C 0=3CE 0=3C9+3B9 0=20+301",
  "0=20+314 1#B=20 0= 5=2010 5=20+333 17=20 3=2032+2032 0=2032+2032+2032 1=2035+2035",
  "0=2035+2035+2035 4=21+21 1=20+305 8=3F+3F 0=3F+21 0=21+3F D=2032+2032+2032+2032 7=20",
  "0#5= 5#6= 0=30 0=69 2*6=34 0=2B 0=2212 0=3D 0*2=28 0=6E 0*A=30 0=2B 0=2212 0=3D 0*2=28",
  "1=61 0=65 0=6F 0=78 0=259 0=68 0*4=6B 0=70 0*2=73 B=72+73 57=61+2F+63 0=61+2F+73 0=63",
  "0=B0+63 1=63+2F+6F 0=63+2F+75 0=25B 1=B0+66 0*2=67 0#3=68 0=127 0#2=69 0#2=6C 1=6E",
  "0=6E+6F 2*3=70 0#2=72 2=73+6D 0=74+65+6C 0=74+6D 1=7A 1=3C9 1=7A 1=6B 0=E5 0*2=62 1#2=65",
  "0=66 0=214E 0=6D 0=6F 0*4=5D0 0=69 1=66+61+78 0=3C0 0#2=3B3 0=3C0 0=2211 4#2=64 0=65",
  "0*2=69 6=31+2044+37 0=31+2044+39 0=31+2044+31+30 0=31+2044+33 0=32+2044+33 0=31+2044+35",
  "0=32+2044+35 0=33+2044+35 0=34+2044+35 0=31+2044+36 0=35+2044+36 0=31+2044+38",
  "0=33+2044+38 0=35+2044+38 0=37+2044+38 0=31+2044 0=69 0=69+69 0=69+69+69 0=69+76 0=76",
  "0=76+69 0=76+69+69 0=76+69+69+69 0=69+78 0=78 0=78+69 0=78+69+69 0=6C 0*2=63 0=6D 0=69",
  "0=69+69 0=69+69+69 0=69+76 0=76 0=76+69 0=76+69+69 0=76+69+69+69 0=69+78 0=78 0=78+69",
  "0=78+69+69 0=6C 0*2=63 0=6D 3=2184 5=30+2044+33 A2=222B+222B 0=222B+222B+222B",
  "1=222E+222E 0=222E+222E+222E F8*2=3008 135*9=31 0=31+30 0=31+31 0=31+32 0=31+33 0=31+34",
  "0=31+35 0=31+36 0=31+37 0=31+38 0=31+39 0=32+30 0=28+31+29 0=28+32+29 0=28+33+29",
  "0=28+34+29 0=28+35+29 0=28+36+29 0=28+37+29 0=28+38+29 0=28+39+29 0=28+31+30+29",
  "0=28+31+31+29 0=28+31+32+29 0=28+31+33+29 0=28+31+34+29 0=28+31+35+29 0=28+31+36+29",
  "0=28+31+37+29 0=28+31+38+29 0=28+31+39+29 0=28+32+30+29 14=28+61+29 0=28+62+29",
  "0=28+63+29 0=28+64+29 0=28+65+29 0=28+66+29 0=28+67+29 0=28+68+29 0=28+69+29 0=28+6A+29",
  "0=28+6B+29 0=28+6C+29 0=28+6D+29 0=28+6E+29 0=28+6F+29 0=28+70+29 0=28+71+29 0=28+72+29",
  "0=28+73+29 0=28+74+29 0=28+75+29 0=28+76+29 0=28+77+29 0=28+78+29 0=28+79+29 0=28+7A+29",
  "0*1A=61 0*1A=61 0=30 521=222B+222B+222B+222B 67=3A+3A+3D 0=3D+3D 0=3D+3D+3D 65=2ADD+338",
  "123*30=2C30 30=2C61 1=26B 0=1D7D 0=27D 2/3 1=251 0=271 0=250 0=252 1=2C73 2=2C76 6=6A",
  "0=76 0*2=23F 0/32 8/2 4=2CF3 7C=2D61 12F=6BCD 53=9F9F C=4E00 0=4E28 0=4E36 0=4E3F 0=4E59",
  "0=4E85 0=4E8C 0=4EA0 0=4EBA 0=513F 0=5165 0=516B 0=5182 0=5196 0=51AB 0=51E0 0=51F5",
  "0=5200 0=529B 0=52F9 0=5315 0=531A 0=5338 0=5341 0=535C 0=5369 0=5382 0=53B6 0=53C8",
  "0=53E3 0=56D7 0=571F 0=58EB 0=5902 0=590A 0=5915 0=5927 0=5973 0=5B50 0=5B80 0=5BF8",
  "0=5C0F 0=5C22 0=5C38 0=5C6E 0=5C71 0=5DDB 0=5DE5 0=5DF1 0=5DFE 0=5E72 0=5E7A 0=5E7F",
  "0=5EF4 0=5EFE 0=5F0B 0=5F13 0=5F50 0=5F61 0=5F73 0=5FC3 0=6208 0=6236 0=624B 0=652F",
  "0=6534 0=6587 0=6597 0=65A4 0=65B9 0=65E0 0=65E5 0=66F0 0=6708 0=6728 0=6B20 0=6B62",
  "0=6B79 0=6BB3 0=6BCB 0=6BD4 0=6BDB 0=6C0F 0=6C14 0=6C34 0=706B 0=722A 0=7236 0=723B",
  "0=723F 0=7247 0=7259 0=725B 0=72AC 0=7384 0=7389 0=74DC 0=74E6 0=7518 0=751F 0=7528",
  "0=7530 0=758B 0=7592 0=7676 0=767D 0=76AE 0=76BF 0=76EE 0=77DB 0=77E2 0=77F3 0=793A",
  "0=79B8 0=79BE 0=7A74 0=7ACB 0=7AF9 0=7C73 0=7CF8 0=7F36 0=7F51 0=7F8A 0=7FBD 0=8001",
  "0=800C 0=8012 0=8033 0=807F 0=8089 0=81E3 0=81EA 0=81F3 0=81FC 0=820C 0=821B 0=821F",
  "0=826E 0=8272 0=8278 0=864D 0=866B 0=8840 0=884C 0=8863 0=897E 0=898B 0=89D2 0=8A00",
  "0=8C37 0=8C46 0=8C55 0=8C78 0=8C9D 0=8D64 0=8D70 0=8DB3 0=8EAB 0=8ECA 0=8F9B 0=8FB0",
  "0=8FB5 0=9091 0=9149 0=91C6 0=91CC 0=91D1 0=9577 0=9580 0=961C 0=96B6 0=96B9 0=96E8",
  "0=9751 0=975E 0=9762 0=9769 0=97CB 0=97ED 0=97F3 0=9801 0=98A8 0=98DB 0=98DF 0=9996",
  "0=9999 0=99AC 0=9AA8 0=9AD8 0=9ADF 0=9B25 0=9B2F 0=9B32 0=9B3C 0=9B5A 0=9CE5 0=9E75",
  "0=9E7F 0=9EA5 0=9EBB 0=9EC3 0=9ECD 0=9ED1 0=9EF9 0=9EFD 0=9F0E 0=9F13 0=9F20 0=9F3B",
  "0=9F4A 0=9F52 0=9F8D 0=9F9C 0=9FA0 2A=20 1=2E 33=3012 1=5341 0*2=5344 60=20+3099",
  "0=20+309A 2=3088+308A 5F=30B3+30C8 31*2=1100 0=11AA 0=1102 0*2=11AC 0*3=1103 0*6=11B0",
  "0=111A 0*3=1106 0=1121 0*A=1109 0*15=1161 0= 0*2=1114 0*2=11C7 0=11CC 0=11CE 0=11D3",
  "0=11D7 0=11D9 0=111C 0=11DD 0=11DF 0*2=111D 0=1120 0*2=1122 0=1127 0=1129 0*5=112B",
  "0=1132 0=1136 0=1140 0=1147 0=114C 0*2=11F1 0*3=1157 0*2=1184 0=1188 0*2=1191 0=1194",
  "0=119E 0=11A1 3=4E00 0=4E8C 0=4E09 0=56DB 0=4E0A 0=4E2D 0=4E0B 0=7532 0=4E59 0=4E19",
  "0=4E01 0=5929 0=5730 0=4EBA 60=28+1100+29 0=28+1102+29 0=28+1103+29 0=28+1105+29",
  "0=28+1106+29 0=28+1107+29 0=28+1109+29 0=28+110B+29 0=28+110C+29 0=28+110E+29",
  "0=28+110F+29 0=28+1110+29 0=28+1111+29 0=28+1112+29 0=28+AC00+29 0=28+B098+29",
  "0=28+B2E4+29 0=28+B77C+29 0=28+B9C8+29 0=28+BC14+29 0=28+C0AC+29 0=28+C544+29",
  "0=28+C790+29 0=28+CC28+29 0=28+CE74+29 0=28+D0C0+29 0=28+D30C+29 0=28+D558+29",
  "0=28+C8FC+29 0=28+C624+C804+29 0=28+C624+D6C4+29 1=28+4E00+29 0=28+4E8C+29 0=28+4E09+29",
  "0=28+56DB+29 0=28+4E94+29 0=28+516D+29 0=28+4E03+29 0=28+516B+29 0=28+4E5D+29",
  "0=28+5341+29 0=28+6708+29 0=28+706B+29 0=28+6C34+29 0=28+6728+29 0=28+91D1+29",
  "0=28+571F+29 0=28+65E5+29 0=28+682A+29 0=28+6709+29 0=28+793E+29 0=28+540D+29",
  "0=28+7279+29 0=28+8CA1+29 0=28+795D+29 0=28+52B4+29 0=28+4EE3+29 0=28+547C+29",
  "0=28+5B66+29 0=28+76E3+29 0=28+4F01+29 0=28+8CC7+29 0=28+5354+29 0=28+796D+29",
  "0=28+4F11+29 0=28+81EA+29 0=28+81F3+29 0=554F 0=5E7C 0=6587 0=7B8F 8=70+74+65 0=32+31",
  "0=32+32 0=32+33 0=32+34 0=32+35 0=32+36 0=32+37 0=32+38 0=32+39 0=33+30 0=33+31 0=33+32",
  "0=33+33 0=33+34 0=33+35 0=1100 0*2=1102 0*3=1105 0=1109 0*2=110B 0*5=110E 0=AC00 0=B098",
  "0=B2E4 0=B77C 0=B9C8 0=BC14 0=C0AC 0=C544 0=C790 0=CC28 0=CE74 0=D0C0 0=D30C 0=D558",
  "0=CC38+ACE0 0=C8FC+C758 0=C6B0 1=4E00 0=4E8C 0=4E09 0=56DB 0=4E94 0=516D 0=4E03 0=516B",
  "0=4E5D 0=5341 0=6708 0=706B 0=6C34 0=6728 0=91D1 0=571F 0=65E5 0=682A 0=6709 0=793E",
  "0=540D 0=7279 0=8CA1 0=795D 0=52B4 0=79D8 0=7537 0=5973 0=9069 0=512A 0=5370 0=6CE8",
  "0=9805 0=4F11 0=5199 0=6B63 0=4E0A 0=4E2D 0=4E0B 0=5DE6 0=53F3 0=533B 0=5B97 0=5B66",
  "0=76E3 0=4F01 0=8CC7 0=5354 0=591C 0=33+36 0=33+37 0=33+38 0=33+39 0=34+30 0=34+31",
  "0=34+32 0=34+33 0=34+34 0=34+35 0=34+36 0=34+37 0=34+38 0=34+39 0=35+30 0=31+6708",
  "0=32+6708 0=33+6708 0=34+6708 0=35+6708 0=36+6708 0=37+6708 0=38+6708 0=39+6708",
  "0=31+30+6708 0=31+31+6708 0=31+32+6708 0=68+67 0=65+72+67 0=65+76 0=6C+74+64 0=30A2",
  "0=30A4 0=30A6 0=30A8 0*2=30AA 0=30AD 0=30AF 0=30B1 0=30B3 0=30B5 0=30B7 0=30B9 0=30BB",
  "0=30BD 0=30BF 0=30C1 0=30C4 0=30C6 0=30C8 0*6=30CA 0=30D2 0=30D5 0=30D8 0=30DB 0*5=30DE",
  "0=30E4 0=30E6 0*6=30E8 0*4=30EF 0=4EE4+548C 0=30A2+30D1+30FC+30C8 0=30A2+30EB+30D5+30A1",
  "0=30A2+30F3+30DA+30A2 0=30A2+30FC+30EB 0=30A4+30CB+30F3+30B0 0=30A4+30F3+30C1",
  "0=30A6+30A9+30F3 0=30A8+30B9+30AF+30FC+30C9 0=30A8+30FC+30AB+30FC 0=30AA+30F3+30B9",
  "0=30AA+30FC+30E0 0=30AB+30A4+30EA 0=30AB+30E9+30C3+30C8 0=30AB+30ED+30EA+30FC",
  "0=30AC+30ED+30F3 0=30AC+30F3+30DE 0=30AE+30AC 0=30AE+30CB+30FC 0=30AD+30E5+30EA+30FC",
  "0=30AE+30EB+30C0+30FC 0=30AD+30ED 0=30AD+30ED+30B0+30E9+30E0",
  "0=30AD+30ED+30E1+30FC+30C8+30EB 0=30AD+30ED+30EF+30C3+30C8 0=30B0+30E9+30E0",
  "0=30B0+30E9+30E0+30C8+30F3 0=30AF+30EB+30BC+30A4+30ED 0=30AF+30ED+30FC+30CD",
  "0=30B1+30FC+30B9 0=30B3+30EB+30CA 0=30B3+30FC+30DD 0=30B5+30A4+30AF+30EB",
  "0=30B5+30F3+30C1+30FC+30E0 0=30B7+30EA+30F3+30B0 0=30BB+30F3+30C1 0=30BB+30F3+30C8",
  "0=30C0+30FC+30B9 0=30C7+30B7 0=30C9+30EB 0=30C8+30F3 0=30CA+30CE 0=30CE+30C3+30C8",
  "0=30CF+30A4+30C4 0=30D1+30FC+30BB+30F3+30C8 0=30D1+30FC+30C4 0=30D0+30FC+30EC+30EB",
  "0=30D4+30A2+30B9+30C8+30EB 0=30D4+30AF+30EB 0=30D4+30B3 0=30D3+30EB",
  "0=30D5+30A1+30E9+30C3+30C9 0=30D5+30A3+30FC+30C8 0=30D6+30C3+30B7+30A7+30EB",
  "0=30D5+30E9+30F3 0=30D8+30AF+30BF+30FC+30EB 0=30DA+30BD 0=30DA+30CB+30D2",
  "0=30D8+30EB+30C4 0=30DA+30F3+30B9 0=30DA+30FC+30B8 0=30D9+30FC+30BF",
  "0=30DD+30A4+30F3+30C8 0=30DC+30EB+30C8 0=30DB+30F3 0=30DD+30F3+30C9 0=30DB+30FC+30EB",
  "0=30DB+30FC+30F3 0=30DE+30A4+30AF+30ED 0=30DE+30A4+30EB 0=30DE+30C3+30CF",
  "0=30DE+30EB+30AF 0=30DE+30F3+30B7+30E7+30F3 0=30DF+30AF+30ED+30F3 0=30DF+30EA",
  "0=30DF+30EA+30D0+30FC+30EB 0=30E1+30AC 0=30E1+30AC+30C8+30F3 0=30E1+30FC+30C8+30EB",
  "0=30E4+30FC+30C9 0=30E4+30FC+30EB 0=30E6+30A2+30F3 0=30EA+30C3+30C8+30EB 0=30EA+30E9",
  "0=30EB+30D4+30FC 0=30EB+30FC+30D6+30EB 0=30EC+30E0 0=30EC+30F3+30C8+30B2+30F3",
  "0=30EF+30C3+30C8 0=30+70B9 0=31+70B9 0=32+70B9 0=33+70B9 0=34+70B9 0=35+70B9 0=36+70B9",
  "0=37+70B9 0=38+70B9 0=39+70B9 0=31+30+70B9 0=31+31+70B9 0=31+32+70B9 0=31+33+70B9",
  "0=31+34+70B9 0=31+35+70B9 0=31+36+70B9 0=31+37+70B9 0=31+38+70B9 0=31+39+70B9",
  "0=32+30+70B9 0=32+31+70B9 0=32+32+70B9 0=32+33+70B9 0=32+34+70B9 0=68+70+61 0=64+61",
  "0=61+75 0=62+61+72 0=6F+76 0=70+63 0=64+6D 0=64+6D+32 0=64+6D+33 0=69+75 0=5E73+6210",
  "0=662D+548C 0=5927+6B63 0=660E+6CBB 0=682A+5F0F+4F1A+793E 0=70+61 0=6E+61 0=3BC+61",
  "0=6D+61 0=6B+61 0=6B+62 0=6D+62 0=67+62 0=63+61+6C 0=6B+63+61+6C 0=70+66 0=6E+66",
  "0=3BC+66 0=3BC+67 0=6D+67 0=6B+67 0=68+7A 0=6B+68+7A 0=6D+68+7A 0=67+68+7A 0=74+68+7A",
  "0=3BC+6C 0=6D+6C 0=64+6C 0=6B+6C 0=66+6D 0=6E+6D 0=3BC+6D 0=6D+6D 0=63+6D 0=6B+6D",
  "0=6D+6D+32 0=63+6D+32 0=6D+32 0=6B+6D+32 0=6D+6D+33 0=63+6D+33 0=6D+33 0=6B+6D+33",
  "0=6D+2215+73 0=6D+2215+73+32 0=70+61 0=6B+70+61 0=6D+70+61 0=67+70+61 0=72+61+64",
  "0=72+61+64+2215+73 0=72+61+64+2215+73+32 0=70+73 0=6E+73 0=3BC+73 0=6D+73 0=70+76",
  "0=6E+76 0=3BC+76 0=6D+76 0=6B+76 0=6D+76 0=70+77 0=6E+77 0=3BC+77 0=6D+77 0=6B+77",
  "0=6D+77 0=6B+3C9 0=6D+3C9 1=62+71 0=63+63 0=63+64 0=63+2215+6B+67 1=64+62 0=67+79",
  "0=68+61 0=68+70 0=69+6E 0=6B+6B 0=6B+6D 0=6B+74 0=6C+6D 0=6C+6E 0=6C+6F+67 0=6C+78",
  "0=6D+62 0=6D+69+6C 0=6D+6F+6C 0=70+68 1=70+70+6D 0=70+72 0=73+72 0=73+76 0=77+62",
  "0=76+2215+6D 0=61+2215+6D 0=31+65E5 0=32+65E5 0=33+65E5 0=34+65E5 0=35+65E5 0=36+65E5",
  "0=37+65E5 0=38+65E5 0=39+65E5 0=31+30+65E5 0=31+31+65E5 0=31+32+65E5 0=31+33+65E5",
  "0=31+34+65E5 0=31+35+65E5 0=31+36+65E5 0=31+37+65E5 0=31+38+65E5 0=31+39+65E5",
  "0=32+30+65E5 0=32+31+65E5 0=32+32+65E5 0=32+33+65E5 0=32+34+65E5 0=32+35+65E5",
  "0=32+36+65E5 0=32+37+65E5 0=32+38+65E5 0=32+39+65E5 0=33+30+65E5 0=33+31+65E5 0=67+61+6C",
  "7240/17 13/E 1=44A 0=44C 84/7 3/1F 1=A76F 8/2 1=1D79 0/5 4=A78C 1=265 2/2 3/A 1=266",
  "0=25C 0=261 0=26C 0=26A 1=29E 0=287 0=29D 0=AB53 0/8 1=A794 0=282 0=1D8E 0/2 1=264 0/8",
  "1=19B 14=73 0=63 0=66 0=71 0=A7F6 2=127 0=153 362=A727 0=AB37 0=26B 0=AB52 9=28D",
  "6*50=13A0 4D40=8C48 0=66F4 0=8ECA 0=8CC8 0=6ED1 0=4E32 0=53E5 0#2=9F9C 0=5951 0=91D1",
  "0=5587 0=5948 0=61F6 0=7669 0=7F85 0=863F 0=87BA 0=88F8 0=908F 0=6A02 0=6D1B 0=70D9",
  "0=73DE 0=843D 0=916A 0=99F1 0=4E82 0=5375 0=6B04 0=721B 0=862D 0=9E1E 0=5D50 0=6FEB",
  "0=85CD 0=8964 0=62C9 0=81D8 0=881F 0=5ECA 0=6717 0=6D6A 0=72FC 0=90CE 0=4F86 0=51B7",
  "0=52DE 0=64C4 0=6AD3 0=7210 0=76E7 0=8001 0=8606 0=865C 0=8DEF 0=9732 0=9B6F 0=9DFA",
  "0=788C 0=797F 0=7DA0 0=83C9 0=9304 0=9E7F 0=8AD6 0=58DF 0=5F04 0=7C60 0=807E 0=7262",
  "0=78CA 0=8CC2 0=96F7 0=58D8 0=5C62 0=6A13 0=6DDA 0=6F0F 0=7D2F 0=7E37 0=964B 0=52D2",
  "0=808B 0=51DC 0=51CC 0=7A1C 0=7DBE 0=83F1 0=9675 0=8B80 0=62CF 0=6A02 0=8AFE 0=4E39",
  "0=5BE7 0=6012 0=7387 0=7570 0=5317 0=78FB 0=4FBF 0=5FA9 0=4E0D 0=6CCC 0=6578 0=7D22",
  "0=53C3 0=585E 0=7701 0=8449 0=8AAA 0=6BBA 0=8FB0 0=6C88 0=62FE 0=82E5 0=63A0 0=7565",
  "0=4EAE 0=5169 0=51C9 0=6881 0=7CE7 0=826F 0=8AD2 0=91CF 0=52F5 0=5442 0=5973 0=5EEC",
  "0=65C5 0=6FFE 0=792A 0=95AD 0=9A6A 0=9E97 0=9ECE 0=529B 0=66C6 0=6B77 0=8F62 0=5E74",
  "0=6190 0=6200 0=649A 0=6F23 0=7149 0=7489 0=79CA 0=7DF4 0=806F 0=8F26 0=84EE 0=9023",
  "0=934A 0=5217 0=52A3 0=54BD 0=70C8 0=88C2 0=8AAA 0=5EC9 0=5FF5 0=637B 0=6BAE 0=7C3E",
  "0=7375 0=4EE4 0=56F9 0=5BE7 0=5DBA 0=601C 0=73B2 0=7469 0=7F9A 0=8046 0=9234 0=96F6",
  "0=9748 0=9818 0=4F8B 0=79AE 0=91B4 0=96B8 0=60E1 0=4E86 0=50DA 0=5BEE 0=5C3F 0=6599",
  "0=6A02 0=71CE 0=7642 0=84FC 0=907C 0=9F8D 0=6688 0=962E 0=5289 0=677B 0=67F3 0=6D41",
  "0=6E9C 0=7409 0=7559 0=786B 0=7D10 0=985E 0=516D 0=622E 0=9678 0=502B 0=5D19 0=6DEA",
  "0=8F2A 0=5F8B 0=6144 0=6817 0=7387 0=9686 0=5229 0=540F 0=5C65 0=6613 0=674E 0=68A8",
  "0=6CE5 0=7406 0=75E2 0=7F79 0=88CF 0=88E1 0=91CC 0=96E2 0=533F 0=6EBA 0=541D 0=71D0",
  "0=7498 0=85FA 0=96A3 0=9C57 0=9E9F 0=6797 0=6DCB 0=81E8 0=7ACB 0=7B20 0=7C92 0=72C0",
  "0=7099 0=8B58 0=4EC0 0=8336 0=523A 0=5207 0=5EA6 0=62D3 0=7CD6 0=5B85 0=6D1E 0=66B4",
  "0=8F3B 0=884C 0=964D 0=898B 0=5ED3 0=5140 0=55C0 2=585A 1=6674 2=51DE 0=732A 0=76CA",
  "0=793C 0=795E 0=7965 0=798F 0=9756 0=7CBE 0=7FBD 1=8612 1=8AF8 2=9038 0=90FD 3=98EF",
  "0=98FC 0=9928 0=9DB4 0=90DE 0=96B7 0=4FAE 0=50E7 0=514D 0=52C9 0=52E4 0=5351 0=559D",
  "0=5606 0=5668 0=5840 0=58A8 0=5C64 0=5C6E 0=6094 0=6168 0=618E 0=61F2 0=654F 0=65E2",
  "0=6691 0=6885 0=6D77 0=6E1A 0=6F22 0=716E 0=722B 0=7422 0=7891 0=793E 0=7949 0=7948",
  "0=7950 0=7956 0=795D 0*2=798D 0=7A40 0=7A81 0=7BC0 0=7DF4 0=7E09 0=7E41 0=7F72 0=8005",
  "0=81ED 0#2=8279 0=8457 0=8910 0=8996 0=8B01 0=8B39 0=8CD3 0=8D08 0=8FB6 0=9038 0=96E3",
  "0=97FF 0=983B 0=6075 0=242EE 0=8218 2=4E26 0=51B5 0=5168 0=4F80 0=5145 0=5180 0=52C7",
  "0=52FA 0=559D 0=5555 0=5599 0=55E2 0=585A 0=58B3 0=5944 0=5954 0=5A62 0=5B28 0=5ED2",
  "0=5ED9 0=5F69 0=5FAD 0=60D8 0=614E 0=6108 0=618E 0=6160 0=61F2 0=6234 0=63C4 0=641C",
  "0=6452 0=6556 0=6674 0=6717 0=671B 0=6756 0=6B79 0=6BBA 0=6D41 0=6EDB 0=6ECB 0=6F22",
  "0=701E 0=716E 0=77A7 0=7235 0=72AF 0=732A 0=7471 0=7506 0=753B 0=761D 0=761F 0=76CA",
  "0=76DB 0=76F4 0=774A 0=7740 0=78CC 0=7AB1 0=7BC0 0=7C7B 0=7D5B 0=7DF4 0=7F3E 0=8005",
  "0=8352 0=83EF 0=8779 0=8941 0=8986 0=8996 0=8ABF 0=8AF8 0=8ACB 0=8B01 0=8AFE 0=8AED",
  "0=8B39 0=8B8A 0=8D08 0=8F38 0=9072 0=9199 0=9276 0=967C 0=96E3 0=9756 0=97DB 0=97FF",
  "0=980B 0=983B 0=9B12 0=9F9C 0=2284A 0=22844 0=233D5 0=3B9D 0=4018 0=4039 0=25249 0=25CD0",
  "0=27ED3 0=9F43 0=9F8E 26=66+66 0=66+69 0=66+6C 0=66+66+69 0=66+66+6C 0#2=73+74 C=574+576",
  "0=574+565 0=574+56B 0=57E+576 0=574+56D 5=5D9+5B4 1=5F2+5B7 0=5E2 0=5D0 0*2=5D3 0*3=5DB",
  "0=5E8 0=5EA 0=2B 0=5E9+5C1 0=5E9+5C2 0=5E9+5BC+5C1 0=5E9+5BC+5C2 0=5D0+5B7 0=5D0+5B8",
  "0=5D0+5BC 0=5D1+5BC 0=5D2+5BC 0=5D3+5BC 0=5D4+5BC 0=5D5+5BC 0=5D6+5BC 1=5D8+5BC",
  "0=5D9+5BC 0=5DA+5BC 0=5DB+5BC 0=5DC+5BC 1=5DE+5BC 1=5E0+5BC 0=5E1+5BC 1=5E3+5BC",
  "0=5E4+5BC 1=5E6+5BC 0=5E7+5BC 0=5E8+5BC 0=5E9+5BC 0=5EA+5BC 0=5D5+5B9 0=5D1+5BF",
  "0=5DB+5BF 0=5E4+5BF 0=5D0+5DC 0#2=671 0#4=67B 0#4=67E 0#4=680 0#4=67A 0#4=67F 0#4=679",
  "0#4=6A4 0#4=6A6 0#4=684 0#4=683 0#4=686 0#4=687 0#2=68D 0#2=68C 0#2=68E 0#2=688 0#2=698",
  "0#2=691 0#4=6A9 0#4=6AF 0#4=6B3 0#4=6B1 0#2=6BA 0#4=6BB 0#2=6C0 0#4=6C1 0#4=6BE 0#2=6D2",
  "0#2=6D3 21#4=6AD 0#2=6C7 0#2=6C6 0#2=6C8 0=6C7+674 0#2=6CB 0#2=6C5 0#2=6C9 0#4=6D0",
  "0#2=649 0#2=626+627 0#2=626+6D5 0#2=626+648 0#2=626+6C7 0#2=626+6C6 0#2=626+6C8",
  "0#3=626+6D0 0#3=626+649 0#4=6CC 0=626+62C 0=626+62D 0=626+645 0=626+649 0=626+64A",
  "0=628+62C 0=628+62D 0=628+62E 0=628+645 0=628+649 0=628+64A 0=62A+62C 0=62A+62D",
  "0=62A+62E 0=62A+645 0=62A+649 0=62A+64A 0=62B+62C 0=62B+645 0=62B+649 0=62B+64A",
  "0=62C+62D 0=62C+645 0=62D+62C 0=62D+645 0=62E+62C 0=62E+62D 0=62E+645 0=633+62C",
  "0=633+62D 0=633+62E 0=633+645 0=635+62D 0=635+645 0=636+62C 0=636+62D 0=636+62E",
  "0=636+645 0=637+62D 0=637+645 0=638+645 0=639+62C 0=639+645 0=63A+62C 0=63A+645",
  "0=641+62C 0=641+62D 0=641+62E 0=641+645 0=641+649 0=641+64A 0=642+62D 0=642+645",
  "0=642+649 0=642+64A 0=643+627 0=643+62C 0=643+62D 0=643+62E 0=643+644 0=643+645",
  "0=643+649 0=643+64A 0=644+62C 0=644+62D 0=644+62E 0=644+645 0=644+649 0=644+64A",
  "0=645+62C 0=645+62D 0=645+62E 0=645+645 0=645+649 0=645+64A 0=646+62C 0=646+62D",
  "0=646+62E 0=646+645 0=646+649 0=646+64A 0=647+62C 0=647+645 0=647+649 0=647+64A",
  "0=64A+62C 0=64A+62D 0=64A+62E 0=64A+645 0=64A+649 0=64A+64A 0=630+670 0=631+670",
  "0=649+670 0=20+64C+651 0=20+64D+651 0=20+64E+651 0=20+64F+651 0=20+650+651 0=20+651+670",
  "0=626+631 0=626+632 0=626+645 0=626+646 0=626+649 0=626+64A 0=628+631 0=628+632",
  "0=628+645 0=628+646 0=628+649 0=628+64A 0=62A+631 0=62A+632 0=62A+645 0=62A+646",
  "0=62A+649 0=62A+64A 0=62B+631 0=62B+632 0=62B+645 0=62B+646 0=62B+649 0=62B+64A",
  "0=641+649 0=641+64A 0=642+649 0=642+64A 0=643+627 0=643+644 0=643+645 0=643+649",
  "0=643+64A 0=644+645 0=644+649 0=644+64A 0=645+627 0=645+645 0=646+631 0=646+632",
  "0=646+645 0=646+646 0=646+649 0=646+64A 0=649+670 0=64A+631 0=64A+632 0=64A+645",
  "0=64A+646 0=64A+649 0=64A+64A 0=626+62C 0=626+62D 0=626+62E 0=626+645 0=626+647",
  "0=628+62C 0=628+62D 0=628+62E 0=628+645 0=628+647 0=62A+62C 0=62A+62D 0=62A+62E",
  "0=62A+645 0=62A+647 0=62B+645 0=62C+62D 0=62C+645 0=62D+62C 0=62D+645 0=62E+62C",
  "0=62E+645 0=633+62C 0=633+62D 0=633+62E 0=633+645 0=635+62D 0=635+62E 0=635+645",
  "0=636+62C 0=636+62D 0=636+62E 0=636+645 0=637+62D 0=638+645 0=639+62C 0=639+645",
  "0=63A+62C 0=63A+645 0=641+62C 0=641+62D 0=641+62E 0=641+645 0=642+62D 0=642+645",
  "0=643+62C 0=643+62D 0=643+62E 0=643+644 0=643+645 0=644+62C 0=644+62D 0=644+62E",
  "0=644+645 0=644+647 0=645+62C 0=645+62D 0=645+62E 0=645+645 0=646+62C 0=646+62D",
  "0=646+62E 0=646+645 0=646+647 0=647+62C 0=647+645 0=647+670 0=64A+62C 0=64A+62D",
  "0=64A+62E 0=64A+645 0=64A+647 0=626+645 0=626+647 0=628+645 0=628+647 0=62A+645",
  "0=62A+647 0=62B+645 0=62B+647 0=633+645 0=633+647 0=634+645 0=634+647 0=643+644",
  "0=643+645 0=644+645 0=646+645 0=646+647 0=64A+645 0=64A+647 0=640+64E+651 0=640+64F+651",
  "0=640+650+651 0=637+649 0=637+64A 0=639+649 0=639+64A 0=63A+649 0=63A+64A 0=633+649",
  "0=633+64A 0=634+649 0=634+64A 0=62D+649 0=62D+64A 0=62C+649 0=62C+64A 0=62E+649",
  "0=62E+64A 0=635+649 0=635+64A 0=636+649 0=636+64A 0=634+62C 0=634+62D 0=634+62E",
  "0=634+645 0=634+631 0=633+631 0=635+631 0=636+631 0=637+649 0=637+64A 0=639+649",
  "0=639+64A 0=63A+649 0=63A+64A 0=633+649 0=633+64A 0=634+649 0=634+64A 0=62D+649",
  "0=62D+64A 0=62C+649 0=62C+64A 0=62E+649 0=62E+64A 0=635+649 0=635+64A 0=636+649",
  "0=636+64A 0=634+62C 0=634+62D 0=634+62E 0=634+645 0=634+631 0=633+631 0=635+631",
  "0=636+631 0=634+62C 0=634+62D 0=634+62E 0=634+645 0=633+647 0=634+647 0=637+645",
  "0=633+62C 0=633+62D 0=633+62E 0=634+62C 0=634+62D 0=634+62E 0=637+645 0=638+645",
  "0#2=627+64B 12=62A+62C+645 0#2=62A+62D+62C 0=62A+62D+645 0=62A+62E+645 0=62A+645+62C",
  "0=62A+645+62D 0=62A+645+62E 0#2=62C+645+62D 0=62D+645+64A 0=62D+645+649 0=633+62D+62C",
  "0=633+62C+62D 0=633+62C+649 0#2=633+645+62D 0=633+645+62C 0#2=633+645+645",
  "0#2=635+62D+62D 0=635+645+645 0#2=634+62D+645 0=634+62C+64A 0#2=634+645+62E",
  "0#2=634+645+645 0=636+62D+649 0#2=636+62E+645 0#2=637+645+62D 0=637+645+645",
  "0=637+645+64A 0=639+62C+645 0#2=639+645+645 0=639+645+649 0=63A+645+645 0=63A+645+64A",
  "0=63A+645+649 0#2=641+62E+645 0=642+645+62D 0=642+645+645 0=644+62D+645 0=644+62D+64A",
  "0=644+62D+649 0#2=644+62C+62C 0#2=644+62E+645 0#2=644+645+62D 0=645+62D+62C",
  "0=645+62D+645 0=645+62D+64A 0=645+62C+62D 0=645+62C+645 0=645+62E+62C 0=645+62E+645",
  "2=645+62C+62E 0=647+645+62C 0=647+645+645 0=646+62D+645 0=646+62D+649 0#2=646+62C+645",
  "0=646+62C+649 0=646+645+64A 0=646+645+649 0#2=64A+645+645 0=628+62E+64A 0=62A+62C+64A",
  "0=62A+62C+649 0=62A+62E+64A 0=62A+62E+649 0=62A+645+64A 0=62A+645+649 0=62C+645+64A",
  "0=62C+62D+649 0=62C+645+649 0=633+62E+649 0=635+62D+64A 0=634+62D+64A 0=636+62D+64A",
  "0=644+62C+64A 0=644+645+64A 0=64A+62D+64A 0=64A+62C+64A 0=64A+645+64A 0=645+645+64A",
  "0=642+645+64A 0=646+62D+64A 0=642+645+62D 0=644+62D+645 0=639+645+64A 0=643+645+64A",
  "0=646+62C+62D 0=645+62E+64A 0=644+62C+645 0=643+645+645 0=644+62C+645 0=646+62C+62D",
  "0=62C+62D+64A 0=62D+62C+64A 0=645+62C+64A 0=641+645+64A 0=628+62D+64A 0=643+645+645",
  "0=639+62C+645 0=635+645+645 0=633+62E+64A 0=646+62C+64A 28=635+644+6D2 0=642+644+6D2",
  "0=627+644+644+647 0=627+643+628+631 0=645+62D+645+62F 0=635+644+639+645",
  "0=631+633+648+644 0=639+644+64A+647 0=648+633+644+645 0=635+644+649",
  "0=635+644+649+20+627+644+644+647+20+639+644+64A+647+20+648+633+644+645",
  "0=62C+644+20+62C+644+627+644+647 0=631+6CC+627+644 3#10= 0=2C 0=3001 1*2=3A 0=21 0=3F",
  "0*2=3016 18=2014 0=2013 0#2=5F 0*2=28 0=7B 0=7D 0*2=3014 0*2=3010 0*2=300A 0*2=3008",
  "0*4=300C 2=5B 0=5D 0#4=20+305 0#3=5F 0=2C 0=3001 2=3B 0=3A 0=3F 0=21 0=2014 0*2=28 0=7B",
  "0=7D 0*2=3014 0=23 0=26 0*2=2A 0=2D 0=3C 0=3E 0=3D 1=5C 0*2=24 0=40 4=20+64B 0=640+64B",
  "0=20+64C 1=20+64D 1=20+64E 0=640+64E 0=20+64F 0=640+64F 0=20+650 0=640+650 0=20+651",
  "0=640+651 0=20+652 0=640+652 0*2=621 0*2=622 0*2=623 0*2=624 0*2=625 0#3=626 0#2=627",
  "0#4=628 0#2=629 0#4=62A 0#4=62B 0#4=62C 0#4=62D 0#4=62E 0#2=62F 0#2=630 0#2=631 0#2=632",
  "0#4=633 0#4=634 0#4=635 0#4=636 0#4=637 0#4=638 0#4=639 0#4=63A 0#4=641 0#4=642 0#4=643",
  "0#4=644 0#4=645 0#4=646 0#4=647 0#2=648 0#2=649 0#4=64A 0#2=644+622 0#2=644+623",
  "0#2=644+625 0#2=644+627 2= 1*20=21 0*1A=61 0*24=5B 0*2=2985 0=2E 0*2=300C 0=3001 0=30FB",
  "0=30F2 0=30A1 0=30A3 0=30A5 0=30A7 0=30A9 0=30E3 0=30E5 0=30E7 0=30C3 0=30FC 0=30A2",
  "0=30A4 0=30A6 0=30A8 0*2=30AA 0=30AD 0=30AF 0=30B1 0=30B3 0=30B5 0=30B7 0=30B9 0=30BB",
  "0=30BD 0=30BF 0=30C1 0=30C4 0=30C6 0=30C8 0*6=30CA 0=30D2 0=30D5 0=30D8 0=30DB 0*5=30DE",
  "0=30E4 0=30E6 0*6=30E8 0=30EF 0=30F3 0*2=3099 0= 0*2=1100 0=11AA 0=1102 0*2=11AC",
  "0*3=1103 0*6=11B0 0=111A 0*3=1106 0=1121 0*A=1109 3*6=1161 2*6=1167 2*6=116D 2*3=1173",
  "3*2=A2 0=AC 0=20+304 0=A6 0=A5 0=20A9 1=2502 0*4=2190 0=25A0 0=25CB 411*28=10428",
  "88*24=104D8 9C*B=10597 1*F=105A3 1*7=105B3 1*2=105BB 1EB*2=2D0 0=E6 0=299 0=253 1=2A3",
  "0=AB66 0=2A5 0=2A4 0*2=256 0=1D91 0=258 0=25E 0=2A9 0=264 0=262 0=260 0=29B 0=127 0=29C",
  "0=267 0=284 0*2=2AA 0=26C 0=1DF04 0=A78E 0=26E 0=1DF05 0=28E 0=1DF06 0=F8 0*2=276 0=71",
  "0=27A 0=1DF08 0*2=27D 0=280 0=2A8 0=2A6 0=AB67 0=2A7 0=288 0=2C71 1=28F 0*2=2A1 0=298",
  "0*3=1C0 0=1DF0A 0=1DF1E 4C5*33=10CC0 9D*16=10D70 B3A*20=118C0 5580*20=16E60 40*19=16EBB",
  "4DE7#4= 1032*1A=61 0*A=30 464=1D157+1D165 0=1D158+1D165 0=1D158+1D165+1D16E",
  "0=1D158+1D165+1D16F 0=1D158+1D165+1D170 0=1D158+1D165+1D171 0=1D158+1D165+1D172 E#8=",
  "40=1D1B9+1D165 0=1D1BA+1D165 0=1D1B9+1D165+1D16E 0=1D1BA+1D165+1D16E 0=1D1B9+1D165+1D16F",
  "0=1D1BA+1D165+1D16F 23F*1A=61 0*1A=61 0*1A=61 0*7=61 1*12=69 0*1A=61 0*1A=61 0=61 1*2=63",
  "2=67 2*2=6A 2*4=6E 1*8=73 0*4=61 1=66 1*7=68 1*B=70 0*1A=61 0*1A=61 0*2=61 1*4=64 2*8=6A",
  "1*7=73 1*1A=61 0*2=61 1*4=64 1*5=69 1=6F 3*7=73 1*1A=61 0*1A=61 0*1A=61 0*1A=61 0*1A=61",
  "0*1A=61 0*1A=61 0*1A=61 0*1A=61 0*1A=61 0*1A=61 0*1A=61 0*1A=61 0=131 0=237 2*11=3B1",
  "0=3B8 0*7=3C3 0=2207 0*11=3B1 0#2=3C3 0*6=3C4 0=2202 0=3B5 0=3B8 0=3BA 0=3C6 0=3C1 0=3C0",
  "0*11=3B1 0=3B8 0*7=3C3 0=2207 0*11=3B1 0#2=3C3 0*6=3C4 0=2202 0=3B5 0=3B8 0=3BA 0=3C6",
  "0=3C1 0=3C0 0*11=3B1 0=3B8 0*7=3C3 0=2207 0*11=3B1 0#2=3C3 0*6=3C4 0=2202 0=3B5 0=3B8",
  "0=3BA 0=3C6 0=3C1 0=3C0 0*11=3B1 0=3B8 0*7=3C3 0=2207 0*11=3B1 0#2=3C3 0*6=3C4 0=2202",
  "0=3B5 0=3B8 0=3BA 0=3C6 0=3C1 0=3C0 0*11=3B1 0=3B8 0*7=3C3 0=2207 0*11=3B1 0#2=3C3",
  "0*6=3C4 0=2202 0=3B5 0=3B8 0=3BA 0=3C6 0=3C1 0=3C0 0#2=3DD 2*A=30 0*A=30 0*A=30 0*A=30",
  "0*A=30 830*9=430 0*3=43A 0*B=43E 0=44B 0*2=44D 0=A689 0=4D9 0=456 0=458 0=4E9 0=4AF",
  "0=4CF 0*9=430 0*2=43A 0*2=43E 0=441 0*6=443 0*2=44A 0=491 0=456 0=455 0=45F 0=4AB 0=A651",
  "0=4B1 892*22=1E922 4DE*2=627 0=62C 0=62F 1=648 0=632 0=62D 0=637 0=64A 0*4=643 0=633",
  "0=639 0=641 0=635 0=642 0=631 0=634 0*2=62A 0=62E 0=630 0=636 0=638 0=63A 0=66E 0=6BA",
  "0=6A1 0=66F 1=628 0=62C 1=647 2=62D 1=64A 0*4=643 0=633 0=639 0=641 0=635 0=642 1=634",
  "0*2=62A 0=62E 1=636 1=63A 6=62C 4=62D 1=64A 1=644 1=646 0=633 0=639 1=635 0=642 1=634",
  "2=62E 1=636 1=63A 1=6BA 1=66F 1=628 0=62C 1=647 2=62D 0=637 0=64A 0=643 1*2=645 0=633",
  "0=639 0=641 0=635 0=642 1=634 0*2=62A 0=62E 1=636 0=638 0=63A 0=66E 1=6A1 1*2=627 0=62C",
  "0=62F 0*2=647 0=632 0=62D 0=637 0=64A 1*3=644 0=633 0=639 0=641 0=635 0=642 0=631 0=634",
  "0*2=62A 0=62E 0=630 0=636 0=638 0=63A 5=628 0=62C 0=62F 1=648 0=632 0=62D 0=637 0=64A",
  "1*3=644 0=633 0=639 0=641 0=635 0=642 0=631 0=634 0*2=62A 0=62E 0=630 0=636 0=638 0=63A",
  "245=30+2C 0=31+2C 0=32+2C 0=33+2C 0=34+2C 0=35+2C 0=36+2C 0=37+2C 0=38+2C 0=39+2C",
  "5=28+61+29 0=28+62+29 0=28+63+29 0=28+64+29 0=28+65+29 0=28+66+29 0=28+67+29 0=28+68+29",
  "0=28+69+29 0=28+6A+29 0=28+6B+29 0=28+6C+29 0=28+6D+29 0=28+6E+29 0=28+6F+29 0=28+70+29",
  "0=28+71+29 0=28+72+29 0=28+73+29 0=28+74+29 0=28+75+29 0=28+76+29 0=28+77+29 0=28+78+29",
  "0=28+79+29 0=28+7A+29 0=3014+73+3015 0=63 0=72 0=63+64 0=77+7A 1*1A=61 0=68+76 0=6D+76",
  "0=73+64 0=73+73 0=70+70+76 0=77+63 1A=6D+63 0=6D+64 0=6D+72 23=64+6A 6F=307B+304B",
  "0=30B3+30B3 0=30B5 D=624B 0=5B57 0=53CC 0=30C7 0=4E8C 0=591A 0=89E3 0=5929 0=4EA4 0=6620",
  "0=7121 0=6599 0=524D 0=5F8C 0=518D 0=65B0 0=521D 0=7D42 0=751F 0=8CA9 0=58F0 0=5439",
  "0=6F14 0=6295 0=6355 0=4E00 0=4E09 0=904A 0=5DE6 0=4E2D 0=53F3 0=6307 0=8D70 0=6253",
  "0=7981 0=7A7A 0=5408 0=6E80 0=6709 0=6708 0=7533 0=5272 0=55B6 0=914D 4=3014+672C+3015",
  "0=3014+4E09+3015 0=3014+4E8C+3015 0=3014+5B89+3015 0=3014+70B9+3015 0=3014+6253+3015",
  "0=3014+76D7+3015 0=3014+52DD+3015 0=3014+6557+3015 7=5F97 0=53EF 99E*A=30 FC06=4E3D",
  "0=4E38 0=4E41 0=20122 0=4F60 0=4FAE 0=4FBB 0=5002 0=507A 0=5099 0=50E7 0=50CF 0=349E",
  "0=2063A 0=514D 0=5154 0=5164 0=5177 0=2051C 0=34B9 0=5167 0=518D 0=2054B 0=5197 0=51A4",
  "0=4ECC 0=51AC 0=51B5 0=291DF 0=51F5 0=5203 0=34DF 0=523B 0=5246 0=5272 0=5277 0=3515",
  "0=52C7 0=52C9 0=52E4 0=52FA 0*2=5305 0=5317 0=5349 0=5351 0=535A 0=5373 0=537D 0#3=537F",
  "0=20A2C 0=7070 0=53CA 0=53DF 0=20B63 0=53EB 0=53F1 0=5406 0=549E 0=5438 0=5448 0=5468",
  "0=54A2 0=54F6 0=5510 0=5553 0=5563 0#2=5584 0=5599 0=55AB 0=55B3 0=55C2 0=5716 0=5606",
  "0=5717 0=5651 0=5674 0=5207 0=58EE 0=57CE 0=57F4 0=580D 0=578B 0=5832 0=5831 0=58AC",
  "0=214E4 0=58F2 0=58F7 0=5906 0=591A 0=5922 0=5962 0=216A8 0=216EA 0=59EC 0=5A1B 0=5A27",
  "0=59D8 0=5A66 0=36EE 0=36FC 0=5B08 0#2=5B3E 0=219C8 0=5BC3 0=5BD8 0=5BE7 0=5BF3 0=21B18",
  "0=5BFF 0=5C06 0=5F53 0=5C22 0=3781 0=5C60 0=5C6E 0=5CC0 0=5C8D 0=21DE4 0=5D43 0=21DE6",
  "0=5D6E 0=5D6B 0=5D7C 0*2=5DE1 0=382F 0=5DFD 0=5E28 0=5E3D 0=5E69 0=3862 0=22183 0=387C",
  "0=5EB0 0=5EB3 0=5EB6 0=5ECA 0=2A392 0=5EFE 0#2=22331 0=8201 0#2=5F22 0=38C7 0=232B8",
  "0=261DA 0=5F62 0=5F6B 0=38E3 0=5F9A 0=5FCD 0=5FD7 0=5FF9 0=6081 0=393A 0=391C 0=6094",
  "0=226D4 0=60C7 0=6148 0=614C 0=614E 0=614C 0=617A 0=618E 0=61B2 0=61A4 0=61AF 0=61DE",
  "0=61F2 0=61F6 0=6210 0=621B 0=625D 0=62B1 0=62D4 0=6350 0=22B0C 0=633D 0=62FC 0=6368",
  "0=6383 0=63E4 0=22BF1 0=6422 0=63C5 0=63A9 0=3A2E 0=6469 0=647E 0=649D 0=6477 0=3A6C",
  "0=654F 0=656C 0=2300A 0=65E3 0=66F8 0=6649 0=3B19 0=6691 0=3B08 0=3AE4 0=5192 0=5195",
  "0=6700 0=669C 0=80AD 0=43D9 0=6717 0=671B 0=6721 0=675E 0=6753 0=233C3 0=3B49 0=67FA",
  "0=6785 0=6852 0=6885 0=2346D 0=688E 0=681F 0=6914 0=3B9D 0=6942 0=69A3 0=69EA 0=6AA8",
  "0=236A3 0=6ADB 0=3C18 0=6B21 0=238A7 0=6B54 0=3C4E 0=6B72 0=6B9F 0*2=6BBA 0=23A8D",
  "0=21D0B 0=23AFA 0=6C4E 0=23CBC 0=6CBF 0=6CCD 0=6C67 0=6D16 0=6D3E 0=6D77 0=6D41 0=6D69",
  "0=6D78 0=6D85 0=23D1E 0=6D34 0=6E2F 0=6E6E 0=3D33 0=6ECB 0=6EC7 0=23ED1 0=6DF9 0=6F6E",
  "0=23F5E 0=23F8E 0=6FC6 0=7039 0=701E 0=701B 0=3D96 0=704A 0=707D 0=7077 0=70AD 0=20525",
  "0=7145 0=24263 0=719C 0=243AB 0=7228 0=7235 0=7250 0=24608 0=7280 0=7295 0=24735 0=24814",
  "0=737A 0=738B 0=3EAC 0=73A5 0#2=3EB8 0=7447 0=745C 0=7471 0=7485 0=74CA 0=3F1B 0=7524",
  "0=24C36 0=753E 0=24C92 0=7570 0=2219F 0=7610 0=24FA1 0=24FB8 0=25044 0=3FFC 0=4008",
  "0=76F4 0=250F3 0=250F2 0=25119 0=25133 0*2=771E 0=771F 0=774A 0=4039 0=778B 0=4046",
  "0=4096 0=2541D 0=784E 0=788C 0=78CC 0=40E3 0=25626 0=7956 0=2569A 0=256C5 0=798F 0=79EB",
  "0=412F 0=7A40 0=7A4A 0=7A4F 0=2597C 0#2=25AA7 0=7AEE 0=4202 0=25BAB 0=7BC6 0=7BC9 0=4227",
  "0=25C80 0=7CD2 0=42A0 0=7CE8 0=7CE3 0=7D00 0=25F86 0=7D63 0=4301 0=7DC7 0=7E02 0=7E45",
  "0=4334 0=26228 0=26247 0=4359 0=262D9 0=7F7A 0=2633E 0=7F95 0=7FFA 0=8005 0=264DA",
  "0=26523 0=8060 0=265A8 0=8070 0=2335F 0=43D5 0=80B2 0=8103 0=440B 0=813E 0=5AB5 0=267A7",
  "0=267B5 0=23393 0=2339C 0=8201 0=8204 0=8F9E 0=446B 0=8291 0=828B 0=829D 0=52B3 0=82B1",
  "0=82B3 0=82BD 0=82E6 0=26B3C 0=82E5 0=831D 0=8363 0=83AD 0=8323 0=83BD 0=83E7 0=8457",
  "0=8353 0=83CA 0=83CC 0=83DC 0=26C36 0=26D6B 0=26CD5 0=452B 0=84F1 0=84F3 0=8516 0=273CA",
  "0=8564 0=26F2C 0=455D 0=4561 0=26FB1 0=270D2 0=456B 0=8650 0=865C 0=8667 0=8669 0=86A9",
  "0=8688 0=870E 0=86E2 0=8779 0=8728 0=876B 0=8786 0=45D7 0=87E1 0=8801 0=45F9 0=8860",
  "0=8863 0=27667 0=88D7 0=88DE 0=4635 0=88FA 0=34BB 0=278AE 0=27966 0=46BE 0=46C7 0=8AA0",
  "0=8AED 0=8B8A 0=8C55 0=27CA8 0=8CAB 0=8CC1 0=8D1B 0=8D77 0=27F2F 0=20804 0=8DCB 0=8DBC",
  "0=8DF0 0=208DE 0=8ED4 0=8F38 0=285D2 0=285ED 0=9094 0=90F1 0=9111 0=2872E 0=911B 0=9238",
  "0*2=92D7 0=927C 0=93F9 0=9415 0=28BFA 0=958B 0=4995 0=95B7 0=28D77 0=49E6 0=96C3 0=5DB2",
  "0=9723 0=29145 0=2921A 0=4A6E 0=4A76 0=97E0 0=2940A 0=4AB2 0=29496 0#2=980B 0=9829",
  "0=295B6 0=98E2 0=4B33 0=9929 0=99A7 0=99C2 0=99FE 0=4BCE 0=29B30 0=9B12 0=9C40 0=9CFD",
  "0=4CCE 0=4CED 0=9D67 0=2A0CE 0=4CF8 0=2A105 0=2A20E 0=2A291 0=9EBB 0=4D56 0=9EF9 0=9EFE",
  "0=9F05 0=9F0F 0=9F16 0=9F3B 0=2A600 B06E2#F0="]

/-- The characters that no domain name contains. -/
def refusedWords : List String := [
  "80 20 2D8 2 6 4 7 1 1 1 14 1 18D 1 26 2 32 2 3 1 37 8 1B 4 6 11 16 1 C0 1 30 2 3B 2 65 E",
  "3B 2 31 2 F 1 1C 2 1 1 B 5 20 7 4B 1 A1 1 8 2 2 2 16 1 7 1 1 3 4 2 9 2 2 2 4 8 1 4 2 1 5",
  "2 19 2 3 1 6 4 2 2 16 1 7 1 2 1 2 1 2 2 1 1 5 4 2 2 3 3 1 7 4 1 1 7 11 A 3 1 9 1 3 1 16",
  "1 7 1 2 1 5 2 A 1 3 1 3 2 1 F 4 2 C 7 7 1 3 1 8 2 2 2 16 1 7 1 2 1 5 2 9 2 2 2 3 7 3 4 2",
  "1 5 2 12 A 2 1 6 3 3 1 4 3 2 1 1 1 2 3 2 3 3 3 C 4 5 3 3 1 4 2 1 6 1 E 15 5 D 1 3 1 17 1",
  "10 2 9 1 3 1 4 7 2 1 3 1 2 2 4 2 A 7 16 1 3 1 17 1 A 1 5 2 9 1 3 1 4 7 2 5 3 1 4 2 A 1 3",
  "C D 1 3 1 33 1 3 1 6 4 10 2 1A 1 3 1 12 3 18 1 9 1 1 2 7 3 1 4 6 1 1 1 8 6 A 2 3 C 3A 4",
  "1D 25 2 1 1 1 5 1 18 1 1 1 17 2 5 1 1 1 7 1 A 2 4 20 48 1 24 4 27 1 24 1 F 1 D 25 C6 1 1",
  "5 1 2 179 1 4 2 7 1 1 1 4 2 29 1 4 2 21 1 4 2 7 1 1 1 4 2 F 1 39 1 4 2 43 2 20 3 1A 6 56",
  "2 6 2 280 1 1C 3 59 7 16 9 18 9 14 C D 1 3 1 2 C 5E 2 A 6 A 6 1A 6 59 7 2B 5 46 A 1F 1 C",
  "4 C 4 1 3 2A 2 5 B 2C 4 1A 6 B 3 3E 2 41 1 1D 2 B 6 A 6 E 2 2E 2 C 14 4D 1 A6 8 3C 3 F 3",
  "3E 5 2B 2 B 8 2B 5 216 2 6 2 26 2 6 2 8 1 1 1 1 1 1 1 1F 2 35 1 F 1 E 2 6 1 13 2 3 1 9 1",
  "E 2 14 3 1 7 36 5 8 2 1B 1 D 3 22 E 21 F 8C 4 29A 16 B 15 28 14 6D8 2 17E 5 2D 1 1 5 1 2",
  "38 7 2 E 18 9 7 1 7 1 7 1 7 1 7 1 7 1 7 1 7 1 7E 22 1A 1 59 C D6 2A 40 1 56 2 67 5 2B 1",
  "5E 1 56 A 2F 1 1A2 1 4 1 10 1 70B4 3 37 9 15C 14 B8 8 DD 14 3C 3 A 6 38 8 46 8 C 6 74 B",
  "1E 3 4E 1 B 4 21 1 37 9 E 2 A 2 67 18 1C A 6 2 6 2 6 9 7 1 7 1 3C 4 7E 2 A 6 2BA4 C 17 4",
  "31 2104 16E 2 6A 26 7 C 5 5 1A 1 5 1 1 1 2 1 2 1 28A 20 22 1 6 7 10 1 21 2 13 1 4 4 5 1",
  "87 2 1 1 BE 3 6 2 6 2 6 2 3 3 7 1 7 11 C 1 1A 1 13 1 2 1 F 2 E 22 7B 5 3 4 2D 3 58 1 D 3",
  "1 2F 2E 82 1D 3 31 F 1C 4 24 9 1E 5 2B 5 1E 1 25 4 E 2A 9E 2 A 6 24 4 24 4 28 8 34 B C 1",
  "F 1 7 1 2 1 B 1 F 1 7 1 2 3 34 C 137 9 16 A 8 18 6 1 2A 1 9 45 6 2 1 1 2C 1 2 3 1 2 17 1",
  "48 8 9 30 13 1 2 5 21 3 1B 5 1B 26 38 4 14 2 32 1 2 5 8 1 3 1 1D 2 3 4 A 7 9 7 40 20 27",
  "4 C 9 36 3 1D 2 1B 5 1A 7 4 C 7 50 49 37 33 D 33 7 2E 8 A 6 26 3 1D 8 2 D0 1F 1 2A 1 3 2",
  "2 10 6 8 9 21 2E 8 2A 16 1A 26 1C 14 17 9 4E 4 24 9 3E 1 5 D 19 7 A 6 35 1 12 8 27 9 60",
  "1 14 B 12 1 2F 3E 7 1 1 1 4 1 F 1 B 6 3B 5 A 6 4 1 8 2 2 2 16 1 7 1 2 1 5 1 A 2 2 2 3 2",
  "1 6 1 5 7 2 7 3 5 B A 1 1 2 1 1 26 1 A 1 1 2 1 1 4 1 A 1 2 8 2 1D 5C 1 5 1E 48 8 A A6 36",
  "2 26 22 45 B A 6 D 13 3A 6 A 6 14 1C 1B 2 F 4 17 B9 3C 64 53 C 8 2 1 2 8 1 2 1 1E 1 2 2",
  "C 9 A 46 8 2 2E 2 B 1B 48 8 53 D 49 7 A 56 8 58 22 E A 6 9 1 2D 1 E A 1D 3 20 2 16 1 E",
  "49 7 1 2 1 2C 3 1 1 2 1 9 8 A 6 6 1 2 1 25 1 2 1 6 7 A 6 2C 4 A F6 19 7 11 1 29 3 1D 55",
  "1 F 32 D 39B 66 6F 1 5 B C4 A4C 63 D 430 10 16 A F9B 5 247 1AB9 3A 6C6 239 7 1F 1 A 4 51",
  "1 A 6 1E 2 6 A 46 A A 1 7 1 15 5 13 1B0 3A C6 5B 5 19 2 19 2C 4B 4 39 7 11 40 5 B 7 9",
  "1CD6 29 20 61 73 21FD 4 1 7 1 2 1 123 F 1 1D 3 2 1 E 4 8 18C 904 6B 5 D 3 9 7 A 2 8 F5C",
  "FD 3 1B4 6 17 F 11 F 2E 2 17 9 74 3C F6 A 27 2 C2 15 46 7A 14 C 14 C 57 9 19 87 55 1 47",
  "1 2 2 1 2 2 2 4 1 C 1 1 1 7 1 41 1 4 2 8 1 7 1 1C 1 4 1 5 1 1 3 7 1 154 2 124 2 2BE F 5",
  "1 F 450 1F 6 6 D5 7 1 11 2 7 1 2 1 5 5 3E 21 1 70 2D 3 E 2 A 4 2 140 1F 11 3A 5 1 1D0 2A",
  "D6 2B 4 1 C0 1F 1 16 8 2 E0 7 1 4 1 2 1 F 1 C5 2 10 29 4C 4 A 4 2 311 44 4C 3D C2 4 1 1B",
  "1 2 1 1 2 1 1 A 1 4 1 1 1 1 6 1 4 1 1 1 1 1 1 3 1 2 1 1 2 1 1 1 1 1 1 1 1 1 1 2 1 1 2 4",
  "1 7 1 4 1 4 1 1 1 A 1 11 5 3 1 5 1 11 34 2 10E 2C 4 64 C F 2 F 1 F 1 25 B AD 38 1D D 2C",
  "4 9 7 2 E 6 9A 3D9 3 11 3 D 3 DA 6 C 4 1 F C 4 38 8 A 6 28 8 1E 2 C 4 2 E 9 27 158 8 E 2",
  "D 3 B 3 39 1 1 4 10 2 C 4 A 7 93 1 67 405 A6E0 20 111E 2 168E 2 1D31 F 26E 9A2 21E 5E2",
  "134B 5 212A ACC86 F0 2FE10"]

/-- The classes of characters in the order of writing. -/
def directionWords : List String := [
  "0:L 9:BN 1:S 1:B 1:S 1:WS 1:B E:BN 3:B 1:S 1:WS 2:ON 3:ET 5:ON 1:ES 1:CS 1:ES 2:CS A:EN",
  "1:CS 26:ON 1A:L 4:ON 22:BN 1:ON 4:ET A:ON 6:ET 29:ON 18:L 1:ON 1C1:L 2:ON 7:L E:ON 2:L",
  "1C:ON 1:L 11:ON 71:NSM 4:L 2:ON 7F:L 2:ON 8B:L 8:NSM FF:L 5:ON 2:ET 2D:NSM 1:R 1:NSM 1:R",
  "2:NSM 1:R 2:NSM 1:R 9:NSM 36:R 2:ON 1:AL 2:ET 1:AL 1:CS 1:AL 2:ON B:NSM 30:AL 15:NSM",
  "A:AN 1:ET 2:AN 3:AL 1:NSM 65:AL 8:NSM 1:ON 6:NSM 2:AL 2:NSM 1:ON 4:NSM 2:AL A:EN 17:AL",
  "1:NSM 1E:AL 1D:NSM 59:AL B:NSM F:AL 2B:R 9:NSM 2:R 4:ON 3:R 1:NSM 18:R 4:NSM 1:R 9:NSM",
  "1:R 3:NSM 1:R 7:NSM 29:R 5:NSM 2:R 37:AL 9:NSM 2A:AL 39:NSM 37:L 1:NSM 1:L 1:NSM 4:L",
  "8:NSM 4:L 1:NSM 3:L F:NSM 2:L 2:NSM 1D:L 1:NSM 3A:L 1:NSM 4:L 6:NSM 6:L 1:NSM 14:L 4:NSM",
  "C:L 2:ET 7:L 1:ET 2:L 5:NSM 39:L 2:NSM 3:L 1B:NSM 14:L 2:NSM 3:L 1:NSM B:L 2:NSM 39:L",
  "1:NSM 4:L 8:NSM 4:L 3:NSM 12:L 4:NSM B:L 8:ET 1:L 8:NSM 3A:L 1:NSM 2:L 1:NSM 1:L 6:NSM",
  "6:L A:NSM B:L 4:NSM 1C:L 1:NSM 3D:L 1:NSM C:L 3:NSM 23:L 6:ON 1:ET 6:ON 1:NSM 3:L 1:NSM",
  "37:L 1:NSM 1:L 3:NSM 5:L 12:NSM A:L 4:NSM 12:L 7:ON 2:L 1:NSM 3A:L 1:NSM F:L 9:NSM D:L",
  "4:NSM 1A:L 2:NSM 39:L 2:NSM 4:L 5:NSM 7:L 1:NSM 14:L 4:NSM 1B:L 1:NSM 48:L 5:NSM 3:L",
  "6:NSM 59:L 1:NSM 2:L B:NSM 1:ET 7:L 8:NSM 62:L 1:NSM 2:L 9:NSM B:L 8:NSM 48:L 2:NSM 1B:L",
  "1:NSM 1:L 1:NSM 1:L 1:NSM 4:ON 33:L E:NSM 1:L 5:NSM 1:L 2:NSM 5:L 31:NSM 8:L 1:NSM 66:L",
  "4:NSM 1:L 6:NSM 1:L 2:NSM 2:L 2:NSM 19:L 2:NSM 4:L 3:NSM 10:L 4:NSM D:L 1:NSM 2:L 2:NSM",
  "6:L 1:NSM F:L 1:NSM 2BF:L 3:NSM 30:L 10:ON 60:L 1:ON 29A:L 5:ON 72:L 3:NSM 1D:L 2:NSM",
  "1E:L E:NSM 12:L E:NSM 37:L 7:NSM 8:L 1:NSM 2:L B:NSM 7:L 1:ET 1:L 3:NSM 10:L 20:ON 75:L",
  "2:NSM 22:L 1:NSM 76:L 3:NSM 4:L 2:NSM 9:L 1:NSM 6:L 7:NSM 6:ON 98:L 22:ON 17:L 2:NSM 2:L",
  "3:NSM 38:L 1:NSM 1:L 9:NSM 1:L 1:NSM 2:L 8:NSM 6:L D:NSM 30:L 54:NSM 30:L 1:NSM 1:L",
  "5:NSM 1:L 1:NSM 5:L 1:NSM 28:L 9:NSM C:L 2:NSM 20:L 4:NSM 2:L 2:NSM 1:L 3:NSM 38:L 1:NSM",
  "1:L 2:NSM 3:L 1:NSM 1:L 3:NSM 3A:L 8:NSM 2:L 5:NSM 95:L 3:NSM 1:L D:NSM 1:L 7:NSM 4:L",
  "1:NSM 6:L 1:NSM 3:L 2:NSM C6:L 41:NSM 20B:L 4:BN 20:ON 5:ET F:ON 1:CS 5B:ON 30:ET 34:NSM",
  "2A:ON C:ET 14:ON 3C:L 88:ON 1:ES 1:ET 122:ON 45:L 1A:ON 1:L 316:ON 1:L 153:ON 100:L",
  "330:ON B5:L 7:ON 3:L 4:NSM 6:L 7:ON 7F:L 1:NSM 60:L 20:NSM 205:ON 3:L 19:ON 9:L 4:NSM",
  "2:L 1:ON 6:L 4:ON 2:L 4:ON 58:L 4:NSM 3:L 1:ON 5A:L 1:ON C4:L 30:ON 1BD0:L 40:ON 5690:L",
  "40:ON 13D:L 3:ON 5F:L 4:NSM 1:ON A:NSM 3:ON 1D:L 2:NSM 50:L 2:NSM E:L 23:ON 65:L 1:ON",
  "79:L 1:NSM 3:L 1:NSM 4:L 1:NSM 19:L 2:NSM 1:L 4:ON 4:NSM 8:L 8:ET 34:L C:ON 44:L A:NSM",
  "12:L 12:NSM D:L 1:NSM 26:L 8:NSM 19:L B:NSM 2E:L 3:NSM 30:L 1:NSM 2:L 4:NSM 2:L 2:NSM",
  "27:L 1:NSM 43:L 6:NSM 2:L 2:NSM 2:L B:NSM 3:L 1:NSM 8:L 1:NSM 2F:L 1:NSM 33:L 1:NSM 1:L",
  "3:NSM 2:L 2:NSM 5:L 2:NSM 1:L 1:NSM 2A:L 2:NSM 8:L B:NSM 69:L 56:ON 25:L 1:NSM 2:L 1:NSM",
  "4:L 3:NSM 4F2E:L 94:NSM 11:AL 25D:ON 25:NSM 2E:ON 18D:AL 101:L 1:ON 3E:L 4D:ON 3:L 40:ON",
  "2D:L 83:NSM 60:L 1:NSM 1F:EN 76:L A:NSM 480:L 11F:R 1:ON E1:R F:NSM 28:R 8:NSM A5:R",
  "6:NSM 4E:R 7:ON 1C0:R 24:AL C:NSM 10:AN 29:R 5:NSM F2:R 20:AN 2B:R 2:NSM 15:R 38:AL",
  "6:NSM 30:R 16:AL B:NSM 1F:AL 12:R 4:NSM 7A:R 1:L 1:NSM 36:L F:NSM B:L 14:ON A:L 1:NSM",
  "2:L 2:NSM A:L 3:NSM 31:L 4:NSM 2:L 2:NSM 7:L E:NSM 30:L 3:NSM 24:L 5:NSM 1:L 9:NSM 3D:L",
  "1:NSM C:L 2:NSM 34:L 9:NSM A:L 4:NSM 2:L 1:NSM 5F:L 3:NSM 2:L 1:NSM 1:L 2:NSM 6:L 1:NSM",
  "2:L 3F:NSM 5F:L 1:NSM 3:L D:NSM 10:L 2:NSM 39:L 2:NSM 3:L 1:NSM 25:L 1A:NSM 3B:L 7:NSM",
  "C:L 1:NSM 1:L 1:NSM 1:L 1:NSM E:L 1F:NSM 38:L 8:NSM 2:L 3:NSM 1:L 1:NSM 17:L 1:NSM 54:L",
  "6:NSM 1:L 1:NSM 4:L 2:NSM 1:L 2:NSM EE:L 6:NSM 4:L 2:NSM 1:L 2:NSM 1B:L 24:NSM 33:L",
  "8:NSM 2:L 1:NSM 1:L 2:NSM 1F:L 20:ON 2B:L 1:NSM 1:L 1:NSM 2:L 6:NSM 1:L 1:NSM 65:L 3:NSM",
  "2:L 4:NSM 1:L 9:NSM FF:L 9:NSM 1:L 2:NSM 100:L 2:NSM 1:L 1:NSM 4:L 1:NSM 90:L 8:NSM 4:L",
  "1:NSM 20:L 6:NSM 2:L 2:NSM 28:L 6:NSM 2:L 4:NSM 8:L 9:NSM 1:L 6:NSM 2:L 3:NSM 2E:L D:NSM",
  "1:L 2:NSM C6:L 1:NSM 1:L 3:NSM 1:L 1:NSM C9:L E:NSM 54:L 17:NSM 1:L 7:NSM 1:L 2:NSM 1:L",
  "4B:NSM 31:L 15:NSM 1:L 9:NSM 40:L 3:NSM 2:L 1:NSM 1:L 1:NSM 15B:L 2:NSM B:L 2:NSM 34:L",
  "8:NSM 2:L 1:NSM 1:L 1:NSM 17:L 56:NSM 25:L 8:ON 4:ET 1E:ON 1441:L 1:NSM 6:L 19:NSM",
  "2CBE:L C:NSM 3:L 3:NSM 9C0:L 5:NSM 3B:L 7:NSM 418:L 1:NSM 3F:L 4:NSM 4F:L 1:ON 1:L C:NSM",
  "4CAD:L 2:NSM F61:L 300:ON 50:NSM 217:L 3:NSM 11:L 8:NSM 2:L 7:NSM 1E:L 4:NSM 3B:L 59:ON",
  "3:NSM 7B:ON 40:L 60:ON 6A0:L 37:NSM 4:L 32:NSM 8:L 1:NSM E:L 1:NSM 16:L 465:NSM 100:L",
  "100:NSM 30:L 7:NSM 177:L 12:NSM 2C:L 4:NSM F:L 1D1:ET 1C:L 4:NSM FE:L 2:NSM F3:L 1:NSM",
  "2:L 1:NSM 7:L 2:NSM 5:L 9:NSM 102:L D0:R 52:NSM 22:R 7:NSM 326:R 27F:AL 260:ON 1D:L 3:ON",
  "3D:L 39:ON 7A:L DA0:ON F0000:L"]

/-- How letters join with their neighbours. -/
def joiningWords : List String := [
  "300 71:T 112 8:T 106 2D:T 1 1:T 1 2:T 1 2:T 1 9:T 40 B:T 5 1:D 1 4:R 1:D 1:R 1:D 1:R 5:D",
  "4:R D:D 1 7:D 1:R 2:D 15:T E 2:D 1:T 3:R 5 F:D 12:R 26:D 1:R 2:D 9:R 1:D 1:R 1:D 1:R 2:D",
  "2:R 1 1:R 8:T 1 6:T 2 2:T 1 4:T 2:R A 3:D 2 1:D 10 1:R 1:T 3:D 5:R 4:D 1:R 9:D 1:R 1:D",
  "1:R 1:D 1:R 2:D 1:R 1D:T 1:R B:D 3:R F:D 2:R 4:D 1:R 1:D 2:R 3:D 2:R 6:D 26 B:T 19 21:D",
  "9:T 9 1:T 18 4:T 1 9:T 1 3:T 1 7:T 10 1:R 5:D 2:R 1:D 1:R A:D 1:R 1:D 3:R 5:T 2 1:D 1",
  "4:D 1 1:R 1:D 1A:R 3 1:D 2 5:D 1:R 8:D 9:T A:D 3:R 1 1:R 2:D 2:R 6:D 1:R F:D 1 39:T 37",
  "1:T 1 1:T 4 8:T 4 1:T 3 F:T 2 2:T 1D 1:T 3A 1:T 4 6:T 6 1:T 14 4:T 18 5:T 39 2:T 3 1B:T",
  "14 2:T 3 1:T B 2:T 39 1:T 4 8:T 4 3:T 12 4:T 14 8:T 3A 1:T 2 1:T 1 6:T 6 A:T B 4:T 1C",
  "1:T 3D 1:T C 3:T 30 1:T 3 1:T 37 1:T 1 3:T 5 12:T A 4:T 1B 1:T 3A 1:T 2 1:T 6 1:T 5 9:T",
  "D 4:T 1A 2:T 39 2:T 4 5:T 7 1:T 14 4:T 1B 1:T 48 5:T 3 6:T 59 1:T 2 B:T 8 8:T 62 1:T 2",
  "9:T B 8:T 48 2:T 1B 1:T 1 1:T 1 1:T 37 E:T 1 5:T 1 2:T 5 31:T 8 1:T 66 4:T 1 6:T 1 2:T 2",
  "2:T 19 2:T 4 3:T 10 4:T D 1:T 2 2:T 6 1:T F 1:T 2BF 3:T 3B2 3:T 1D 2:T 1E E:T 12 E:T 37",
  "7:T 8 1:T 2 B:T 9 3:T 27 1:D 18 60:D 5 2:T 22:D 1:T 6:D 70 3:T 4 2:T 9 1:T 6 7:T D7 2:T",
  "2 3:T 38 1:T 1 9:T 1 1:T 2 8:T 6 D:T 30 54:T 30 1:T 1 5:T 1 1:T 5 1:T 28 9:T C 2:T 20",
  "4:T 2 2:T 1 3:T 38 1:T 1 2:T 3 1:T 1 3:T 3A 8:T 2 5:T 95 3:T 1 D:T 1 7:T 4 1:T 6 1:T 3",
  "2:T C6 41:T 2CF 34:T BEB 4:T 8C 1:T 60 20:T 22A 4:T 6B 4:T 75D2 4:T 1 A:T 20 2:T 50 2:T",
  "110 1:T 3 1:T 4 1:T 19 2:T 5 4:T 10 32:D 1:L 51 A:T 12 12:T D 1:T 26 8:T 19 B:T 2E 3:T",
  "30 1:T 2 4:T 2 2:T 27 1:T 43 6:T 2 2:T 2 B:T 3 1:T 8 1:T 2F 1:T 33 1:T 1 3:T 2 2:T 5 2:T",
  "1 1:T 2A 2:T 8 B:T E4 1:T 2 1:T 4 3:T 4F2E 94:T 26E 25:T 3B8 83:T 60 1:T 95 A:T 681 F:T",
  "28 8:T 80 5:D 1:R 1 1:R 1 2:R 2 1:L 5:R 4:D 1:L 5:D 1:R 3:D 1:R 2 1:R 6:T 4:D 1:R 90 1:D",
  "1:R 1:D 3:R 3:D 1:R 2:D 1:R 1:D 2:R 1:D 8:R 10 4:R 2:D 151 1:L 21:D 1:R 1:D C:T 39 5:T",
  "13D 2:T 15 1:R 2:D 1 A:D 2A 6:T 30 3:D 1:R 11:D 1 B:T 3:D 1:R 1B 4:D 2:R C:D 4:T 2A 1:D",
  "1 2:D 3:R 1 1:D 2:R 2:D 1:R 2:D 1 1:D 2:R 1:D 4 1:R 1:D 15:L 21 1:T 36 F:T 29 1:T 2 2:T",
  "A 3:T 31 4:T 2 2:T 7 E:T 30 3:T 24 5:T 1 9:T 3D 1:T C 2:T 34 9:T A 4:T 2 1:T 5F 3:T 2",
  "1:T 1 2:T 6 1:T 2 3F:T 5F 1:T 3 D:T 10 2:T 39 2:T 3 1:T 25 1A:T 3B 7:T C 1:T 1 1:T 1 1:T",
  "E 1F:T 38 8:T 2 3:T 1 1:T 17 1:T 54 6:T 1 1:T 4 2:T 1 2:T EE 6:T 4 2:T 1 2:T 1B 24:T 33",
  "8:T 2 1:T 1 2:T 6A 1:T 1 1:T 2 6:T 1 1:T 65 1:T 1 1:T 2 4:T 1 9:T FF 9:T 1 2:T 100 2:T 1",
  "1:T 4 1:T 90 8:T 4 1:T 20 A:T 28 6:T 2 4:T 8 9:T 1 6:T 2 3:T 2E D:T 1 2:T C6 1:T 1 3:T 1",
  "1:T C9 E:T 1 1:T 52 17:T 1 7:T 1 2:T 1 4B:T 31 15:T 1 9:T 40 3:T 2 1:T 1 1:T 15B 2:T B",
  "2:T 34 8:T 2 1:T 1 1:T 17 56:T 1490 1:T 6 19:T 2CBE C:T 3 3:T 9C0 5:T 3B 7:T 418 1:T 3F",
  "4:T 51 C:T 4CAD 2:T 1261 50:T 217 3:T 11 8:T 2 7:T 1E 4:T 94 3:T 7BB 37:T 4 32:T 8 1:T E",
  "1:T 16 465:T 100 100:T 30 7:T 177 12:T 2C 4:T 1FC 4:T FE 2:T F3 1:T 2 1:T 7 2:T 5 9:T",
  "1D2 52:T 22:D C:T F16B0"]

/-- The characters that are marks. -/
def markWords : List String := [
  "300 71 112 8 106 2D 1 1 1 2 1 2 1 9 40 B 30 15 10 1 65 8 1 6 2 2 1 4 23 1 1E 1D 59 B 3A",
  "9 9 1 18 4 1 9 1 3 1 7 29 5 39 9 2A 3A 36 3 1 12 1 F 2 2 1D 4 37 1 1 10 9 9 2 4 18 7 37",
  "20 14 2 3 1 B 4 37 1 1 12 12 4 14 B 37 1 1 21 3 4 1C 1 3B 12 7 F 1A 5 37 1 1 1A A 4 1B 3",
  "38 1 1 1E 6 4 D 11 37 2 1 10 9 1 A 4 1B 4 45 1C C 2 3D 1 2 B 8 8 62 1 2 9 B 8 48 2 1B 1",
  "1 1 1 1 4 2 31 14 1 2 5 31 8 1 64 14 17 4 4 3 1 3 2 7 3 4 D C 1 1 A 4 2BF 3 3B2 D 13 3",
  "1D E 12 E 36 1E 9 3 A5 2 22 1 76 20 D7 7 37 2B 30 55 2F 11 26 9 C 3 1E D 38 16 28 17 95",
  "3 1 15 4 1 6 1 2 3 C6 41 2CF 34 BEB 4 8C 1 60 20 22A 6 69 4 75D2 4 1 A 20 2 50 2 110 1 3",
  "1 4 1 17 5 4 4 50 2 32 1A 12 12 D 1 26 8 19 18 21 4 2F E 24 1 43 17 3 1 8 4 2B 3 32 1 1",
  "3 2 2 5 2 1 1 29 5 5 C E2 8 1 4 4F2E 94 26E 25 3B8 83 60 1 95 A 681 F 28 8 A5 6 239 C 39",
  "5 13D 2 4D 6 46 B 31 4 7A 3 35 F 29 1 2 2 A 4 2D B 7 E 30 3 24 F F 2 2C 1 C 3 30 E 8 4 1",
  "2 5C C 6 1 2 3F 5F 11 10 5 36 2 1 12 7 6 5 1E 38 19 1 1 E 1F 35 12 17 1 51 14 EB 12 1B",
  "24 30 11 6A D 65 13 FC F F5 F 1 1 1 2 8D 10 3 1C 1 A 28 7 1 4 8 9 1 B 2E 10 C6 60 6F 11",
  "52 6E 31 15 1 9 3A E 15B 4 9 2 1 1 30 F 17 56 1490 1 6 19 2CBE 12 9C0 5 3B 7 418 1 1 42",
  "51 E 4CAB 2 1261 50 215 5 3 16 2 7 1E 4 94 3 7BB 37 4 32 8 1 E 1 16 465 100 100 30 7 177",
  "12 2C 4 1FC 4 FE 2 F3 1 2 1 7 2 5 9 1D2 52 22 7"]

end ModuleHooks.Domain.Table
