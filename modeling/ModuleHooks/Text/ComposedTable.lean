/-!
# Pairs of characters that compose

The data behind `Text.Composed`. A word of `pairWords` says which code point stands for
the two after the sign of equality; what comes before it is the distance from the
composed code point of the previous word. The runs of `combiningWords` give the
combining classes of Unicode, in decimal digits.
-/

namespace ModuleHooks.Text.ComposedTable

/-- The composed characters and their parts. -/
def pairWords : List String := [
  "C0=41+300 0=41+301 0=41+302 0=41+303 0=41+308 0=41+30A 1=43+327 0=45+300 0=45+301",
  "0=45+302 0=45+308 0=49+300 0=49+301 0=49+302 0=49+308 1=4E+303 0=4F+300 0=4F+301",
  "0=4F+302 0=4F+303 0=4F+308 2=55+300 0=55+301 0=55+302 0=55+308 0=59+301 2=61+300",
  "0=61+301 0=61+302 0=61+303 0=61+308 0=61+30A 1=63+327 0=65+300 0=65+301 0=65+302",
  "0=65+308 0=69+300 0=69+301 0=69+302 0=69+308 1=6E+303 0=6F+300 0=6F+301 0=6F+302",
  "0=6F+303 0=6F+308 2=75+300 0=75+301 0=75+302 0=75+308 0=79+301 1=79+308 0=41+304",
  "0=61+304 0=41+306 0=61+306 0=41+328 0=61+328 0=43+301 0=63+301 0=43+302 0=63+302",
  "0=43+307 0=63+307 0=43+30C 0=63+30C 0=44+30C 0=64+30C 2=45+304 0=65+304 0=45+306",
  "0=65+306 0=45+307 0=65+307 0=45+328 0=65+328 0=45+30C 0=65+30C 0=47+302 0=67+302",
  "0=47+306 0=67+306 0=47+307 0=67+307 0=47+327 0=67+327 0=48+302 0=68+302 2=49+303",
  "0=69+303 0=49+304 0=69+304 0=49+306 0=69+306 0=49+328 0=69+328 0=49+307 3=4A+302",
  "0=6A+302 0=4B+327 0=6B+327 1=4C+301 0=6C+301 0=4C+327 0=6C+327 0=4C+30C 0=6C+30C",
  "4=4E+301 0=6E+301 0=4E+327 0=6E+327 0=4E+30C 0=6E+30C 3=4F+304 0=6F+304 0=4F+306",
  "0=6F+306 0=4F+30B 0=6F+30B 2=52+301 0=72+301 0=52+327 0=72+327 0=52+30C 0=72+30C",
  "0=53+301 0=73+301 0=53+302 0=73+302 0=53+327 0=73+327 0=53+30C 0=73+30C 0=54+327",
  "0=74+327 0=54+30C 0=74+30C 2=55+303 0=75+303 0=55+304 0=75+304 0=55+306 0=75+306",
  "0=55+30A 0=75+30A 0=55+30B 0=75+30B 0=55+328 0=75+328 0=57+302 0=77+302 0=59+302",
  "0=79+302 0=59+308 0=5A+301 0=7A+301 0=5A+307 0=7A+307 0=5A+30C 0=7A+30C 21=4F+31B",
  "0=6F+31B D=55+31B 0=75+31B 1C=41+30C 0=61+30C 0=49+30C 0=69+30C 0=4F+30C 0=6F+30C",
  "0=55+30C 0=75+30C 0=DC+304 0=FC+304 0=DC+301 0=FC+301 0=DC+30C 0=FC+30C 0=DC+300",
  "0=FC+300 1=C4+304 0=E4+304 0=226+304 0=227+304 0=C6+304 0=E6+304 2=47+30C 0=67+30C",
  "0=4B+30C 0=6B+30C 0=4F+328 0=6F+328 0=1EA+304 0=1EB+304 0=1B7+30C 0=292+30C 0=6A+30C",
  "3=47+301 0=67+301 2=4E+300 0=6E+300 0=C5+301 0=E5+301 0=C6+301 0=E6+301 0=D8+301",
  "0=F8+301 0=41+30F 0=61+30F 0=41+311 0=61+311 0=45+30F 0=65+30F 0=45+311 0=65+311",
  "0=49+30F 0=69+30F 0=49+311 0=69+311 0=4F+30F 0=6F+30F 0=4F+311 0=6F+311 0=52+30F",
  "0=72+30F 0=52+311 0=72+311 0=55+30F 0=75+30F 0=55+311 0=75+311 0=53+326 0=73+326",
  "0=54+326 0=74+326 2=48+30C 0=68+30C 6=41+307 0=61+307 0=45+327 0=65+327 0=D6+304",
  "0=F6+304 0=D5+304 0=F5+304 0=4F+307 0=6F+307 0=22E+304 0=22F+304 0=59+304 0=79+304",
  "151=A8+301 0=391+301 1=395+301 0=397+301 0=399+301 1=39F+301 1=3A5+301 0=3A9+301",
  "0=3CA+301 19=399+308 0=3A5+308 0=3B1+301 0=3B5+301 0=3B7+301 0=3B9+301 0=3CB+301",
  "19=3B9+308 0=3C5+308 0=3BF+301 0=3C5+301 0=3C9+301 4=3D2+301 0=3D2+308 2B=415+300",
  "0=415+308 1=413+301 3=406+308 4=41A+301 0=418+300 0=423+306 A=418+306 1F=438+306",
  "16=435+300 0=435+308 1=433+301 3=456+308 4=43A+301 0=438+300 0=443+306 17=474+30F",
  "0=475+30F 49=416+306 0=436+306 D=410+306 0=430+306 0=410+308 0=430+308 2=415+306",
  "0=435+306 2=4D8+308 0=4D9+308 0=416+308 0=436+308 0=417+308 0=437+308 2=418+304",
  "0=438+304 0=418+308 0=438+308 0=41E+308 0=43E+308 2=4E8+308 0=4E9+308 0=42D+308",
  "0=44D+308 0=423+304 0=443+304 0=423+308 0=443+308 0=423+30B 0=443+30B 0=427+308",
  "0=447+308 2=42B+308 0=44B+308 128=627+653 0=627+654 0=648+654 0=627+655 0=64A+654",
  "99=6D5+654 1=6C1+654 10=6D2+654 255=928+93C 7=930+93C 2=933+93C 96=9C7+9BE 0=9C7+9D7",
  "17B=B47+B56 2=B47+B3E 0=B47+B57 47=B92+BD7 35=BC6+BBE 0=BC7+BBE 0=BC6+BD7 7B=C46+C56",
  "77=CBF+CD5 6=CC6+CD5 0=CC6+CD6 1=CC6+CC2 0=CCA+CD5 7E=D46+D3E 0=D47+D3E 0=D46+D57",
  "8D=DD9+DCA 1=DD9+DCF 0=DDC+DCA 0=DD9+DDF 247=1025+102E ADF=1B05+1B35 1=1B07+1B35",
  "1=1B09+1B35 1=1B0B+1B35 1=1B0D+1B35 3=1B11+1B35 28=1B3A+1B35 1=1B3C+1B35 2=1B3E+1B35",
  "0=1B3F+1B35 1=1B42+1B35 2BC=41+325 0=61+325 0=42+307 0=62+307 0=42+323 0=62+323 0=42+331",
  "0=62+331 0=C7+301 0=E7+301 0=44+307 0=64+307 0=44+323 0=64+323 0=44+331 0=64+331",
  "0=44+327 0=64+327 0=44+32D 0=64+32D 0=112+300 0=113+300 0=112+301 0=113+301 0=45+32D",
  "0=65+32D 0=45+330 0=65+330 0=228+306 0=229+306 0=46+307 0=66+307 0=47+304 0=67+304",
  "0=48+307 0=68+307 0=48+323 0=68+323 0=48+308 0=68+308 0=48+327 0=68+327 0=48+32E",
  "0=68+32E 0=49+330 0=69+330 0=CF+301 0=EF+301 0=4B+301 0=6B+301 0=4B+323 0=6B+323",
  "0=4B+331 0=6B+331 0=4C+323 0=6C+323 0=1E36+304 0=1E37+304 0=4C+331 0=6C+331 0=4C+32D",
  "0=6C+32D 0=4D+301 0=6D+301 0=4D+307 0=6D+307 0=4D+323 0=6D+323 0=4E+307 0=6E+307",
  "0=4E+323 0=6E+323 0=4E+331 0=6E+331 0=4E+32D 0=6E+32D 0=D5+301 0=F5+301 0=D5+308",
  "0=F5+308 0=14C+300 0=14D+300 0=14C+301 0=14D+301 0=50+301 0=70+301 0=50+307 0=70+307",
  "0=52+307 0=72+307 0=52+323 0=72+323 0=1E5A+304 0=1E5B+304 0=52+331 0=72+331 0=53+307",
  "0=73+307 0=53+323 0=73+323 0=15A+307 0=15B+307 0=160+307 0=161+307 0=1E62+307 0=1E63+307",
  "0=54+307 0=74+307 0=54+323 0=74+323 0=54+331 0=74+331 0=54+32D 0=74+32D 0=55+324",
  "0=75+324 0=55+330 0=75+330 0=55+32D 0=75+32D 0=168+301 0=169+301 0=16A+308 0=16B+308",
  "0=56+303 0=76+303 0=56+323 0=76+323 0=57+300 0=77+300 0=57+301 0=77+301 0=57+308",
  "0=77+308 0=57+307 0=77+307 0=57+323 0=77+323 0=58+307 0=78+307 0=58+308 0=78+308",
  "0=59+307 0=79+307 0=5A+302 0=7A+302 0=5A+323 0=7A+323 0=5A+331 0=7A+331 0=68+331",
  "0=74+308 0=77+30A 0=79+30A 1=17F+307 4=41+323 0=61+323 0=41+309 0=61+309 0=C2+301",
  "0=E2+301 0=C2+300 0=E2+300 0=C2+309 0=E2+309 0=C2+303 0=E2+303 0=1EA0+302 0=1EA1+302",
  "0=102+301 0=103+301 0=102+300 0=103+300 0=102+309 0=103+309 0=102+303 0=103+303",
  "0=1EA0+306 0=1EA1+306 0=45+323 0=65+323 0=45+309 0=65+309 0=45+303 0=65+303 0=CA+301",
  "0=EA+301 0=CA+300 0=EA+300 0=CA+309 0=EA+309 0=CA+303 0=EA+303 0=1EB8+302 0=1EB9+302",
  "0=49+309 0=69+309 0=49+323 0=69+323 0=4F+323 0=6F+323 0=4F+309 0=6F+309 0=D4+301",
  "0=F4+301 0=D4+300 0=F4+300 0=D4+309 0=F4+309 0=D4+303 0=F4+303 0=1ECC+302 0=1ECD+302",
  "0=1A0+301 0=1A1+301 0=1A0+300 0=1A1+300 0=1A0+309 0=1A1+309 0=1A0+303 0=1A1+303",
  "0=1A0+323 0=1A1+323 0=55+323 0=75+323 0=55+309 0=75+309 0=1AF+301 0=1B0+301 0=1AF+300",
  "0=1B0+300 0=1AF+309 0=1B0+309 0=1AF+303 0=1B0+303 0=1AF+323 0=1B0+323 0=59+300 0=79+300",
  "0=59+323 0=79+323 0=59+309 0=79+309 0=59+303 0=79+303 6=3B1+313 0=3B1+314 0=1F00+300",
  "0=1F01+300 0=1F00+301 0=1F01+301 0=1F00+342 0=1F01+342 0=391+313 0=391+314 0=1F08+300",
  "0=1F09+300 0=1F08+301 0=1F09+301 0=1F08+342 0=1F09+342 0=3B5+313 0=3B5+314 0=1F10+300",
  "0=1F11+300 0=1F10+301 0=1F11+301 2=395+313 0=395+314 0=1F18+300 0=1F19+300 0=1F18+301",
  "0=1F19+301 2=3B7+313 0=3B7+314 0=1F20+300 0=1F21+300 0=1F20+301 0=1F21+301 0=1F20+342",
  "0=1F21+342 0=397+313 0=397+314 0=1F28+300 0=1F29+300 0=1F28+301 0=1F29+301 0=1F28+342",
  "0=1F29+342 0=3B9+313 0=3B9+314 0=1F30+300 0=1F31+300 0=1F30+301 0=1F31+301 0=1F30+342",
  "0=1F31+342 0=399+313 0=399+314 0=1F38+300 0=1F39+300 0=1F38+301 0=1F39+301 0=1F38+342",
  "0=1F39+342 0=3BF+313 0=3BF+314 0=1F40+300 0=1F41+300 0=1F40+301 0=1F41+301 2=39F+313",
  "0=39F+314 0=1F48+300 0=1F49+300 0=1F48+301 0=1F49+301 2=3C5+313 0=3C5+314 0=1F50+300",
  "0=1F51+300 0=1F50+301 0=1F51+301 0=1F50+342 0=1F51+342 1=3A5+314 1=1F59+300 1=1F59+301",
  "1=1F59+342 0=3C9+313 0=3C9+314 0=1F60+300 0=1F61+300 0=1F60+301 0=1F61+301 0=1F60+342",
  "0=1F61+342 0=3A9+313 0=3A9+314 0=1F68+300 0=1F69+300 0=1F68+301 0=1F69+301 0=1F68+342",
  "0=1F69+342 0=3B1+300 1=3B5+300 1=3B7+300 1=3B9+300 1=3BF+300 1=3C5+300 1=3C9+300",
  "3=1F00+345 0=1F01+345 0=1F02+345 0=1F03+345 0=1F04+345 0=1F05+345 0=1F06+345 0=1F07+345",
  "0=1F08+345 0=1F09+345 0=1F0A+345 0=1F0B+345 0=1F0C+345 0=1F0D+345 0=1F0E+345 0=1F0F+345",
  "0=1F20+345 0=1F21+345 0=1F22+345 0=1F23+345 0=1F24+345 0=1F25+345 0=1F26+345 0=1F27+345",
  "0=1F28+345 0=1F29+345 0=1F2A+345 0=1F2B+345 0=1F2C+345 0=1F2D+345 0=1F2E+345 0=1F2F+345",
  "0=1F60+345 0=1F61+345 0=1F62+345 0=1F63+345 0=1F64+345 0=1F65+345 0=1F66+345 0=1F67+345",
  "0=1F68+345 0=1F69+345 0=1F6A+345 0=1F6B+345 0=1F6C+345 0=1F6D+345 0=1F6E+345 0=1F6F+345",
  "0=3B1+306 0=3B1+304 0=1F70+345 0=3B1+345 0=3AC+345 1=3B1+342 0=1FB6+345 0=391+306",
  "0=391+304 0=391+300 1=391+345 4=A8+342 0=1F74+345 0=3B7+345 0=3AE+345 1=3B7+342",
  "0=1FC6+345 0=395+300 1=397+300 1=397+345 0=1FBF+300 0=1FBF+301 0=1FBF+342 0=3B9+306",
  "0=3B9+304 0=3CA+300 3=3B9+342 0=3CA+342 0=399+306 0=399+304 0=399+300 2=1FFE+300",
  "0=1FFE+301 0=1FFE+342 0=3C5+306 0=3C5+304 0=3CB+300 1=3C1+313 0=3C1+314 0=3C5+342",
  "0=3CB+342 0=3A5+306 0=3A5+304 0=3A5+300 1=3A1+314 0=A8+300 4=1F7C+345 0=3C9+345",
  "0=3CE+345 1=3C9+342 0=1FF6+345 0=39F+300 1=3A9+300 1=3A9+345 19D=2190+338 0=2192+338",
  "12=2194+338 1E=21D0+338 0=21D4+338 0=21D2+338 34=2203+338 4=2208+338 2=220B+338",
  "17=2223+338 1=2225+338 1A=223C+338 2=2243+338 2=2245+338 1=2248+338 16=3D+338 1=2261+338",
  "A=224D+338 0=3C+338 0=3E+338 0=2264+338 0=2265+338 2=2272+338 0=2273+338 2=2276+338",
  "0=2277+338 6=227A+338 0=227B+338 2=2282+338 0=2283+338 2=2286+338 0=2287+338 22=22A2+338",
  "0=22A8+338 0=22A9+338 0=22AB+338 30=227C+338 0=227D+338 0=2291+338 0=2292+338 6=22B2+338",
  "0=22B3+338 0=22B4+338 0=22B5+338 D5E=304B+3099 1=304D+3099 1=304F+3099 1=3051+3099",
  "1=3053+3099 1=3055+3099 1=3057+3099 1=3059+3099 1=305B+3099 1=305D+3099 1=305F+3099",
  "1=3061+3099 2=3064+3099 1=3066+3099 1=3068+3099 6=306F+3099 0=306F+309A 1=3072+3099",
  "0=3072+309A 1=3075+3099 0=3075+309A 1=3078+3099 0=3078+309A 1=307B+3099 0=307B+309A",
  "16=3046+3099 9=309D+3099 D=30AB+3099 1=30AD+3099 1=30AF+3099 1=30B1+3099 1=30B3+3099",
  "1=30B5+3099 1=30B7+3099 1=30B9+3099 1=30BB+3099 1=30BD+3099 1=30BF+3099 1=30C1+3099",
  "2=30C4+3099 1=30C6+3099 1=30C8+3099 6=30CF+3099 0=30CF+309A 1=30D2+3099 0=30D2+309A",
  "1=30D5+3099 0=30D5+309A 1=30D8+3099 0=30D8+309A 1=30DB+3099 0=30DB+309A 16=30A6+3099",
  "2=30EF+3099 0=30F0+3099 0=30F1+3099 0=30F2+3099 3=30FD+3099 D4CA=105D2+307 1A=105DA+307",
  "AB5=11099+110BA 1=1109B+110BA E=110A5+110BA 82=11131+11127 0=11132+11127 21B=11347+1133E",
  "0=11347+11357 36=11382+113C9 1=11384+113BB 8=1138B+113C2 2=11390+113C9 33=113C2+113C2",
  "1=113C2+113B8 0=113C2+113C9 F2=114B9+114BA 0=114B9+114B0 1=114B9+114BD FB=115B8+115AF",
  "0=115B9+115AF 37C=11935+11930 47E8=1611E+1611E 0=1611E+16129 0=1611E+1611F 0=16129+1611F",
  "0=1611E+16120 0=16121+1611F 0=16122+1611F 0=16121+16120 C3F=16D67+16D67 0=16D63+16D67",
  "0=16D69+16D67"]

/-- The combining classes. -/
def combiningWords : List String := [
  "300 15:230 1:232 4:220 1:232 1:216 5:220 2:202 4:220 2:202 B:220 5:1 4:220 A:230 3:220",
  "3:230 3:220 3:230 4:220 1:230 1:232 2:220 1:230 1:233 2:234 1:233 2:234 1:233 E:230 112",
  "5:230 109 1:220 4:230 1:220 3:230 1:222 1:220 6:230 6:220 2:230 1:220 2:230 1:222 1:228",
  "1:230 1:10 1:11 1:12 1:13 1:14 1:15 1:16 1:17 1:18 2:19 1:20 1:21 1:22 1 1:23 1 1:24",
  "1:25 1 1:230 1:220 1 9:18 40 8:230 1:30 1:31 1:32 30 1:27 1:28 1:29 1:30 1:31 1:32 1:33",
  "1:34 2:230 2:220 5:230 1:220 2:230 1:220 10 1:35 65 8:230 1 4:230 1:220 1:230 2 2:230 1",
  "1:220 2:230 1:220 23 1:36 1E 1:230 1:220 2:230 1:220 2:230 3:220 1:230 2:220 1:230 1:220",
  "3:230 1:220 1:230 1:220 1:230 1:220 1:230 1:220 4:230 9E 7:230 1:220 1:230 9 1:220 18",
  "4:230 1 9:230 1 3:230 1 7:230 29 5:220 39 2:230 3:220 4:230 2A 5:230 5:220 F:230 1:220",
  "2:230 1:220 2:230 1:220 3:230 3:220 1:27 1:28 1:29 3:230 1:220 2:230 2:220 5:230 3C 1:7",
  "10 1:9 3 1:230 1:220 2:230 67 1:7 10 1:9 30 3:230 3B 2:7 F 4:9 6B 1:7 10 3:9 6C 1:7 10",
  "8:9 78 3:9 6C 1:7 10 8:9 1:84 2:91 64 1:7 10 8:9 66 2:9 10 1:9 7C 5:9 69 2:103 5:9 9",
  "4:107 6C 2:118 1:9 D 4:122 4C 2:220 1B 1:220 1 1:220 1 1:216 37 1:129 2:130 6:132 4:130",
  "2 2:130 2:230 1:9 1 2:230 3E 1:220 70 1:7 1 2:9 52 1:220 2CF 3:230 3B4 B:9 15 1:9 9D 1:9",
  "A 3:230 C9 1:228 8F 1:222 1:230 5:220 D7 1:230 1:220 47 1:9 14 A:230 1:220 30 5:230",
  "6:220 2:230 1:220 1 2:220 2:230 2:220 5:230 1:220 35:230 34 1:7 F 1:9 26 1:230 1:220",
  "7:230 36 2:9 3A 1:7 B A:9 3B 4:7 95 3:230 1 1:1 5:220 2:230 4:220 1:230 1 7:1 4 1:220 6",
  "1:230 3 2:230 C6 2:230 1:220 7:230 1:220 2:230 1:234 1:214 1:220 1:202 25:230 1:232",
  "2:228 1:220 1:218 1:230 1:233 1:220 1:230 2:220 2CF 2:230 2:1 4:230 3:1 2:230 4 1:230 3",
  "2:1 1:230 1:220 1:230 2:1 4:220 14:230 BEB 4:230 8C 1:9 60 20:230 22A 1:218 1:228 1:232",
  "1:222 2:224 69 4:8 75D2 1:230 4 A:230 20 2:230 50 2:230 114 1:9 25 4:9 94 1:9 1B 12:230",
  "39 3:220 25 C:9 54 1:7 C 1:9 EF 1:230 1 2:230 1:220 2 2:230 5 2:230 1 1:230 34 B:9 EC",
  "3:9 4F2E 94:26 26E 7:230 7:220 17:230 3B8 83:220 60 1:220 95 A:230 68D 1:220 1 1:230 28",
  "1:230 1:1 5:220 1:9 A5 1:230 5:220 239 C:230 39 5:230 13D 2:230 4D 3:230 3:220 46 2:220",
  "3:230 1:220 1:230 4:220 31 1:230 1:220 1:230 1:220 C0 1:9 29 1:9 E 1:9 39 1:9 1:7 45",
  "3:230 30 3:9 3D 1:7 4C 1:9 9 1:7 6A 1:9 1:7 B2 1:7 6:9 4B 2:7 10 3:9 16 1A:230 3B 7:230",
  "C 3:9 1 1:230 E 1F:230 42 1:9 3 1:7 17 1:230 63 1:9 1:7 FB 1:9 1:7 7E 1:9 76 1:9 1:7 73",
  "5:9 109 1:9 1:7 102 2:9 4 1:7 9C 1:9 53 1:9 12 9:9 49 1:9 C6 1:230 1 3:230 1 1:230 D8",
  "1:9 102 1:7 1 2:9 51 1:9 1A9 2:9 17 56:230 416E C:230 3 2:230 1:9 9C0 5:1 3B 7:230 4B9",
  "2:6 4CAC 1:1 14C6 2:216 3:1 3 1:226 D:216 8:220 2 5:230 2:220 1E 4:230 94 3:230 DBB",
  "100:230 30 7:230 177 12:230 2C 4:230 1FC 2:232 1:220 1:230 FE 2:230 F3 1:230 2 1:230 7",
  "2:230 5 9:230 1D2 52:220 22 6:230 1:7 F16B5"]

end ModuleHooks.Text.ComposedTable
