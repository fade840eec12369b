/-!
# Characters that are not seen

The data behind `Text.isUnseen`: controls, formats, private and unassigned code points,
spaces other than the common one, and marks that extend the character before them. The
words are the lengths of the gaps and runs of the set.
-/

namespace ModuleHooks.Text.UnseenTable

/-- The set of characters that are not seen. -/
def unseenWords : List String := [
  "0 20 5F 22 C 1 252 70 8 2 6 4 7 1 1 1 14 1 E0 7 A6 1 26 2 32 2 3 2E 1 1 1 2 1 2 1 9 1B 4",
  "6 11 A B 1 1 2E 15 10 1 65 8 1 6 2 2 1 4 20 2 1 1 1E 1D 59 B 1 E 2B 9 7 3 18 4 1 9 1 3 1",
  "7 F 1 19 5 1 1 B 5 20 10 2A 39 37 1 1 1 4 8 4 1 3 7 A 2 1D 1 2 1 8 2 2 2 16 1 7 1 1 3 4",
  "3 1 1 2 6 2 2 2 1 1 D 2 1 3 4 18 5 1 1 6 4 2 2 16 1 7 1 2 1 2 1 2 4 3 18 4 1 1 7 A 2 3 1",
  "1 C 1 1 9 1 3 1 16 1 7 1 2 1 5 3 4 8 1 1 2 3 1 F 2 4 C 7 1 8 2 1 8 2 2 2 16 1 7 1 2 1 5",
  "3 1 2 1 6 2 2 2 F 2 1 3 4 12 B 1 1 6 3 3 1 4 3 2 1 1 1 2 3 2 3 3 3 C 5 1 1 2 3 3 1 3 3 1",
  "15 15 6 3 1 8 1 3 1 17 1 10 3 1 3 4 13 3 1 2 2 2 4 A 7 A 1 B 1 3 1 17 1 A 1 5 3 2 2 1 1",
  "2 17 3 1 2 4 A 1 3 E B 1 3 1 29 2 1 1 2 5 3 1 3 1 2 4 3 1 A 4 1A 2 2 1 12 3 18 1 9 1 1 2",
  "7 9 2 6 7 7 A 2 3 C 30 1 2 B 8 8 D 25 2 1 1 1 5 1 18 1 1 1 A 1 2 9 1 2 5 1 1 9 A 2 4 20",
  "18 2 1B 1 1 1 1 1 E 1 24 12 1 5 1 2 5 31 8 1 6 1 D 25 2D 4 1 6 1 2 2 2 19 2 4 3 10 4 D 1",
  "2 2 6 1 F 1 28 1 1 5 1 2 179 1 4 2 7 1 1 1 4 2 29 1 4 2 21 1 4 2 7 1 1 1 4 2 F 1 39 1 4",
  "2 43 5 1D 3 1A 6 56 2 6 2 280 1 1C 3 59 7 12 D 13 3 2 9 12 E D 1 3 F 34 2 1 7 8 1 2 B 9",
  "3 A 6 A 6 B 5 A 6 59 7 5 2 22 1 1 5 46 A 1F 4 4 2 3 4 2 1 6 7 1 3 2A 2 5 B 2C 4 1A 6 B 3",
  "39 2 2 3 38 1 1 9 1 1 2 8 6 D A 6 A 6 E 56 30 A 4 3 8 1 1D 9 C 2 20 4 2 6 38 1 1 2 3 1 1",
  "D 30 8 2 5 F 3 3E 5 2B 2 B B 1 D 1 7 4 1 6 1 3 2 1 5 C0 40 116 2 6 2 26 2 6 2 8 1 1 1 1",
  "1 1 1 1F 2 35 1 F 1 E 2 6 1 13 2 3 1 9 11 18 8 2F 11 2 2 1B 1 D 3 22 3E 8C 4 29A 16 B 15",
  "714 2 179 3 2 5 2D 1 1 5 1 2 38 7 2 F 17 9 7 1 7 1 7 1 7 1 7 1 7 1 7 1 7 21 5E 22 1A 1",
  "59 C D6 1A 10 1 29 6 10 1 56 4 65 5 2B 1 5E 1 56 9 30 1 726D 3 37 9 15C 14 2F 4 1 A 20 2",
  "50 2 6 8 DD 14 11 1 3 1 4 1 19 2 5 4 A 6 38 8 44 A C 18 D 1 26 8 19 B 1 C 1E 6 30 1 2 4",
  "2 2 2 1 D 1 B 4 7 1 19 1 29 6 2 2 2 B 3 1 8 1 1 2 A 2 20 1 33 1 1 3 2 2 5 2 1 1 1 18 11",
  "2 8 B 6 2 6 2 6 9 7 1 7 1 3C 4 75 1 2 1 4 3 A 6 2BA4 C 17 4 31 2104 16E 2 6A 26 7 C 5 5",
  "1 1 18 1 5 1 1 1 2 1 2 1 28A 20 10 10 A 16 23 1 13 1 4 4 5 1 87 4 9D 2 1F 3 6 2 6 2 6 2",
  "3 3 7 1 7 D 2 2 C 1 1A 1 13 1 2 1 F 2 E 22 7B 5 3 4 2D 3 58 1 D 3 1 2F 2D 83 1D 3 31 10",
  "1B 4 24 9 1E 5 26 A 1E 1 25 4 E 2A 9E 2 A 6 24 4 24 4 28 8 34 B C 1 F 1 7 1 2 1 B 1 F 1",
  "7 1 2 3 34 C 137 9 16 A 8 18 6 1 2A 1 9 45 6 2 1 1 2C 1 2 3 1 2 17 1 48 8 9 30 13 1 2 5",
  "21 3 1B 5 1B 26 38 4 14 2 2F F 4 1 3 1 1D A 9 7 9 7 40 20 25 6 C 9 36 3 1D 2 1B 5 1A 7 4",
  "C 7 50 49 37 33 D 33 7 2A C A 6 26 8 18 8 2 D0 1F 1 2A 3 1 2 2 10 6 8 9 27 28 8 16 B 9",
  "16 12 4 4 26 1C 14 17 9 1 1 36 F 7 4 1E 1 2 2 1 C 31 4 2 2 2 1 4 E 19 7 A 9 24 5 1 9 12",
  "8 23 1 3 B 34 9 1 1 8 4 2 1 10 1 14 B 12 1 1C 3 2 4 6 1 2 3F 7 1 1 1 4 1 F 1 B 6 2F 1 3",
  "D A 8 2 1 8 2 2 2 16 1 7 1 2 1 5 3 1 1 1 1 4 2 2 2 2 3 1 C 7 1C A 1 1 2 1 1 26 1 4 7 1 2",
  "1 1 4 1 2 1 1 1 1 1 3 1 2 27 38 8 2 3 1 1 15 1 1 1 3 1E 30 1 2 6 1 1 2 1 1 2 1 2 4 8 A",
  "A6 2F 1 2 6 4 2 1 2 1B 24 33 8 2 1 1 2 4 B A 6 D 13 2B 1 1 1 2 8 2 6 A 6 14 1C 1B 5 2 4",
  "1 9 17 B9 2F 9 1 2 1 64 53 C 8 2 1 2 8 1 2 1 18 1 5 1 2 6 4 1 3 9 A 46 8 2 2A 8 4 1 4 1B",
  "1 A 28 6 2 4 8 9 1 6 2 3 2E D 1 2 9 D 49 7 A 57 1 3 1 1 1 58 22 E A 6 9 1 26 E 1 1 6 A",
  "1D 3 20 19 1 7 1 2 1 4B 7 1 2 1 26 15 1 9 A 6 6 1 2 1 25 4 2 1 1 1 1 7 A 6 2C 4 A F6 13",
  "2 4 9 F 1 24 8 2 3 17 56 1 F 32 D 39B 66 6F 1 5 B C4 A4C 63 D 430 11 6 19 F9B 5 247 1AB9",
  "1E C 3 3 A 6C6 239 7 1F 1 A 4 51 1 A 6 1E 7 1 A 30 7 F A A 1 7 1 15 5 13 1B0 3A C6 5B 5",
  "19 2 19 2C 4B 5 38 B D 40 4 E 5 9 1CD6 29 20 61 73 21FD 4 1 7 1 2 1 123 F 1 1D 3 2 1 E 4",
  "8 18C 904 6B 5 D 3 9 7 A 2 1 2 1 F60 FD 3 1B4 6 17 F 11 5F 74 3C F6 A 27 2 3C 1 1 3 4 15",
  "2 7 1E 4 3D 15 42 3 1 7A 14 C 14 C 57 9 19 87 55 1 47 1 2 2 1 2 2 2 4 1 C 1 1 1 7 1 41 1",
  "4 2 8 1 7 1 1C 1 4 1 5 1 1 3 7 1 154 2 124 2 232 37 4 32 8 1 E 1 7 474 1F 6 6 105 3E 92",
  "2D A 7 2 A 4 2 140 1E 12 2C 4 A 5 1 1D0 1C 4 A D6 1E 2 B 4 1 C0 1F 1 3 1 2 1 7 2 5 9 2",
  "E0 7 1 4 1 2 1 F 1 C5 2 9 30 44 7 1 4 A 4 2 311 44 4C 3D C2 4 1 1B 1 2 1 1 2 1 1 A 1 4 1",
  "1 1 1 6 1 4 1 1 1 1 1 1 3 1 2 1 1 2 1 1 1 1 1 1 1 1 1 1 2 1 1 2 4 1 7 1 4 1 4 1 1 1 A 1",
  "11 5 3 1 5 1 11 34 2 10E 2C 4 64 C F 2 F 1 F 1 25 A AE 38 1D D 2C 4 9 7 2 E 6 9A 3D9 3",
  "11 3 D 3 DA 6 C 4 1 F C 4 38 8 A 6 28 8 1E 2 C 4 2 E 9 27 158 8 E 2 D 3 B 3 39 1 1 4 10",
  "2 C 4 A 7 93 1 67 405 A6E0 20 111E 2 168E 2 1D31 F 26E 9A2 21E 5E2 134B 5 212A DCB86"]

end ModuleHooks.Text.UnseenTable
