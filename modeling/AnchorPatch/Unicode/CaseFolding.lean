import AnchorPatch.Unicode.RangeTable

namespace AnchorPatch.Unicode

/-- The orbits of more than one character, separated by commas. An orbit is given by the distance
of its first character from the first one of the orbit before, and by the distances between its
members. -/
def orbitTable : String :=
  "65 32, 1 32, 1 32, 1 32, 1 32, 1 32, 1 32, 1 32, 1 32, 1 32, 1 32 8383, 1 32, 1 32, 1 32, " ++
  "1 32, 1 32, 1 32, 1 32, 1 32 268, 1 32, 1 32, 1 32, 1 32, 1 32, 1 32, 1 32, 91 743 32, " ++
  "11 32, 1 32, 1 32, 1 32, 1 32, 1 32 8262, 1 32, 1 32, 1 32, 1 32, 1 32, 1 32, 1 32, 1 32, " ++
  "1 32, 1 32, 1 32, 1 32, 1 32, 1 32, 1 32, 1 32, 1 32, 2 32, 1 32, 1 32, 1 32, 1 32, 1 32, " ++
  "1 32, 1 7615, 32 121, 1 1, 2 1, 2 1, 2 1, 2 1, 2 1, 2 1, 2 1, 2 1, 2 1, 2 1, 2 1, 2 1, 2 1, " ++
  "2 1, 2 1, 2 1, 2 1, 2 1, 2 1, 2 1, 2 1, 2 1, 2 1, 4 1, 2 1, 2 1, 3 1, 2 1, 2 1, 2 1, 2 1, " ++
  "2 1, 2 1, 2 1, 3 1, 2 1, 2 1, 2 1, 2 1, 2 1, 2 1, 2 1, 2 1, 2 1, 2 1, 2 1, 2 1, 2 1, 2 1, " ++
  "2 1, 2 1, 2 1, 2 1, 2 1, 2 1, 2 1, 2 1, 3 1, 2 1, 2 1, 3 195, 1 210, 1 1, 2 1, 2 206, 1 1, " ++
  "2 205, 1 205, 1 1, 3 79, 1 202, 1 203, 1 1, 2 205, 1 207, 1 97, 1 211, 1 209, 1 1, 2 163, " ++
  "1 42561, 1 211, 1 213, 1 130, 1 214, 1 1, 2 1, 2 1, 2 218, 1 1, 2 218, 3 1, 2 218, 1 1, " ++
  "2 217, 1 217, 1 1, 2 1, 2 219, 1 1, 4 1, 3 56, 5 1 1, 3 1 1, 3 1 1, 3 1, 2 1, 2 1, 2 1, 2 1, " ++
  "2 1, 2 1, 2 1, 3 1, 2 1, 2 1, 2 1, 2 1, 2 1, 2 1, 2 1, 2 1, 3 1 1, 3 1, 4 1, 2 1, 2 1, 2 1, " ++
  "2 1, 2 1, 2 1, 2 1, 2 1, 2 1, 2 1, 2 1, 2 1, 2 1, 2 1, 2 1, 2 1, 2 1, 2 1, 2 1, 4 1, 2 1, " ++
  "2 1, 2 1, 2 1, 2 1, 2 1, 2 1, 2 1, 8 10795, 1 1, 3 10792, 1 10815, 1 10815, 1 1, 3 69, 1 71, " ++
  "1 1, 2 1, 2 1, 2 1, 2 1, 2 10783, 1 10780, 1 10782, 10 42319, 5 42315, 3 42343, 1 42280, " ++
  "1 42308, 4 42308, 1 10743, 1 42305, 5 10749, 12 10727, 5 42307, 5 42282, 22 42261, 1 42258, " ++
  "167 84 32 7173, 43 1, 2 1, 4 1, 5 130, 1 130, 1 130, 2 116, 7 38, 2 37, 1 37, 1 37, 2 64, " ++
  "2 63, 1 63, 1 7235, 1 32, 1 32 30, 1 32, 1 32, 1 32 64, 1 32, 1 32, 1 32 25 35, 2 32 54, " ++
  "1 32, 2 32, 1 32, 1 32, 1 32 22, 1 32 48, 2 31 1, 1 32, 1 32, 1 32 15, 1 32, 1 32, " ++
  "1 32 7517, 1 32, 1 32, 5 7219, 31 8, 9 1, 2 1, 2 1, 2 1, 2 1, 2 1, 2 1, 2 1, 2 1, 2 1, 2 1, " ++
  "2 1, 4 7, 5 1, 3 1, 6 80, 1 80, 1 80, 1 80, 1 80, 1 80, 1 80, 1 80, 1 80, 1 80, 1 80, 1 80, " ++
  "1 80, 1 80, 1 80, 1 80, 1 32, 1 32, 1 32 6222, 1 32, 1 32 6221, 1 32, 1 32, 1 32, 1 32, " ++
  "1 32, 1 32, 1 32, 1 32, 1 32, 1 32 6212, 1 32, 1 32, 1 32 6210, 1 32 6210 1, 1 32, 1 32, " ++
  "1 32, 1 32, 1 32, 1 32, 1 32, 1 32 6204, 1 32, 1 32, 1 32, 1 32, 1 32, 49 1, 2 1 6180, 2 1, " ++
  "2 1, 2 1, 2 1, 2 1, 2 1, 2 1, 2 1, 2 1, 2 1, 2 1, 2 1, 2 1, 2 1, 2 1, 10 1, 2 1, 2 1, 2 1, " ++
  "2 1, 2 1, 2 1, 2 1, 2 1, 2 1, 2 1, 2 1, 2 1, 2 1, 2 1, 2 1, 2 1, 2 1, 2 1, 2 1, 2 1, 2 1, " ++
  "2 1, 2 1, 2 1, 2 1, 2 1, 2 15, 1 1, 2 1, 2 1, 2 1, 2 1, 2 1, 2 1, 3 1, 2 1, 2 1, 2 1, 2 1, " ++
  "2 1, 2 1, 2 1, 2 1, 2 1, 2 1, 2 1, 2 1, 2 1, 2 1, 2 1, 2 1, 2 1, 2 1, 2 1, 2 1, 2 1, 2 1, " ++
  "2 1, 2 1, 2 1, 2 1, 2 1, 2 1, 2 1, 2 1, 2 1, 2 1, 2 1, 2 1, 2 1, 2 1, 2 1, 2 1, 2 1, 2 1, " ++
  "2 1, 2 1, 2 1, 2 1, 2 1, 2 1, 2 1, 3 48, 1 48, 1 48, 1 48, 1 48, 1 48, 1 48, 1 48, 1 48, " ++
  "1 48, 1 48, 1 48, 1 48, 1 48, 1 48, 1 48, 1 48, 1 48, 1 48, 1 48, 1 48, 1 48, 1 48, 1 48, " ++
  "1 48, 1 48, 1 48, 1 48, 1 48, 1 48, 1 48, 1 48, 1 48, 1 48, 1 48, 1 48, 1 48, 1 48, " ++
  "2890 7264, 1 7264, 1 7264, 1 7264, 1 7264, 1 7264, 1 7264, 1 7264, 1 7264, 1 7264, 1 7264, " ++
  "1 7264, 1 7264, 1 7264, 1 7264, 1 7264, 1 7264, 1 7264, 1 7264, 1 7264, 1 7264, 1 7264, " ++
  "1 7264, 1 7264, 1 7264, 1 7264, 1 7264, 1 7264, 1 7264, 1 7264, 1 7264, 1 7264, 1 7264, " ++
  "1 7264, 1 7264, 1 7264, 1 7264, 1 7264, 2 7264, 6 7264, 3 3008, 1 3008, 1 3008, 1 3008, " ++
  "1 3008, 1 3008, 1 3008, 1 3008, 1 3008, 1 3008, 1 3008, 1 3008, 1 3008, 1 3008, 1 3008, " ++
  "1 3008, 1 3008, 1 3008, 1 3008, 1 3008, 1 3008, 1 3008, 1 3008, 1 3008, 1 3008, 1 3008, " ++
  "1 3008, 1 3008, 1 3008, 1 3008, 1 3008, 1 3008, 1 3008, 1 3008, 1 3008, 1 3008, 1 3008, " ++
  "1 3008, 1 3008, 1 3008, 1 3008, 1 3008, 1 3008, 3 3008, 1 3008, 1 3008, 673 38864, 1 38864, " ++
  "1 38864, 1 38864, 1 38864, 1 38864, 1 38864, 1 38864, 1 38864, 1 38864, 1 38864, 1 38864, " ++
  "1 38864, 1 38864, 1 38864, 1 38864, 1 38864, 1 38864, 1 38864, 1 38864, 1 38864, 1 38864, " ++
  "1 38864, 1 38864, 1 38864, 1 38864, 1 38864, 1 38864, 1 38864, 1 38864, 1 38864, 1 38864, " ++
  "1 38864, 1 38864, 1 38864, 1 38864, 1 38864, 1 38864, 1 38864, 1 38864, 1 38864, 1 38864, " ++
  "1 38864, 1 38864, 1 38864, 1 38864, 1 38864, 1 38864, 1 38864, 1 38864, 1 38864, 1 38864, " ++
  "1 38864, 1 38864, 1 38864, 1 38864, 1 38864, 1 38864, 1 38864, 1 38864, 1 38864, 1 38864, " ++
  "1 38864, 1 38864, 1 38864, 1 38864, 1 38864, 1 38864, 1 38864, 1 38864, 1 38864, 1 38864, " ++
  "1 38864, 1 38864, 1 38864, 1 38864, 1 38864, 1 38864, 1 38864, 1 38864, 1 8, 1 8, 1 8, 1 8, " ++
  "1 8, 1 8, 2195 35266 1, 1 1, 240 35332, 4 3814, 17 35384, 114 1, 2 1, 2 1, 2 1, 2 1, 2 1, " ++
  "2 1, 2 1, 2 1, 2 1, 2 1, 2 1, 2 1, 2 1, 2 1, 2 1, 2 1, 2 1, 2 1, 2 1, 2 1, 2 1, 2 1, 2 1, " ++
  "2 1, 2 1, 2 1, 2 1, 2 1, 2 1, 2 1, 2 1, 2 1, 2 1, 2 1, 2 1, 2 1, 2 1, 2 1, 2 1, 2 1, 2 1, " ++
  "2 1, 2 1, 2 1, 2 1, 2 1, 2 1, 2 1 58, 2 1, 2 1, 2 1, 2 1, 2 1, 2 1, 2 1, 2 1, 2 1, 2 1, 2 1, " ++
  "2 1, 2 1, 2 1, 2 1, 2 1, 2 1, 2 1, 2 1, 2 1, 2 1, 2 1, 2 1, 2 1, 2 1, 2 1, 12 1, 2 1, 2 1, " ++
  "2 1, 2 1, 2 1, 2 1, 2 1, 2 1, 2 1, 2 1, 2 1, 2 1, 2 1, 2 1, 2 1, 2 1, 2 1, 2 1, 2 1, 2 1, " ++
  "2 1, 2 1, 2 1, 2 1, 2 1, 2 1, 2 1, 2 1, 2 1, 2 1, 2 1, 2 1, 2 1, 2 1, 2 1, 2 1, 2 1, 2 1, " ++
  "2 1, 2 1, 2 1, 2 1, 2 1, 2 1, 2 1, 2 1, 2 1, 2 8, 1 8, 1 8, 1 8, 1 8, 1 8, 1 8, 1 8, 9 8, " ++
  "1 8, 1 8, 1 8, 1 8, 1 8, 11 8, 1 8, 1 8, 1 8, 1 8, 1 8, 1 8, 1 8, 9 8, 1 8, 1 8, 1 8, 1 8, " ++
  "1 8, 1 8, 1 8, 9 8, 1 8, 1 8, 1 8, 1 8, 1 8, 12 8, 2 8, 2 8, 2 8, 9 8, 1 8, 1 8, 1 8, 1 8, " ++
  "1 8, 1 8, 1 8, 9 74, 1 74, 1 86, 1 86, 1 86, 1 86, 1 100, 1 100, 1 128, 1 128, 1 112, 1 112, " ++
  "1 126, 1 126, 3 8, 1 8, 1 8, 1 8, 1 8, 1 8, 1 8, 1 8, 9 8, 1 8, 1 8, 1 8, 1 8, 1 8, 1 8, " ++
  "1 8, 9 8, 1 8, 1 8, 1 8, 1 8, 1 8, 1 8, 1 8, 9 8, 1 8, 2 9, 16 9, 13 8, 1 8, 15 8, 1 8, 4 7, " ++
  "14 9, 319 28, 46 16, 1 16, 1 16, 1 16, 1 16, 1 16, 1 16, 1 16, 1 16, 1 16, 1 16, 1 16, 1 16, " ++
  "1 16, 1 16, 1 16, 20 1, 819 26, 1 26, 1 26, 1 26, 1 26, 1 26, 1 26, 1 26, 1 26, 1 26, 1 26, " ++
  "1 26, 1 26, 1 26, 1 26, 1 26, 1 26, 1 26, 1 26, 1 26, 1 26, 1 26, 1 26, 1 26, 1 26, 1 26, " ++
  "1841 48, 1 48, 1 48, 1 48, 1 48, 1 48, 1 48, 1 48, 1 48, 1 48, 1 48, 1 48, 1 48, 1 48, 1 48, " ++
  "1 48, 1 48, 1 48, 1 48, 1 48, 1 48, 1 48, 1 48, 1 48, 1 48, 1 48, 1 48, 1 48, 1 48, 1 48, " ++
  "1 48, 1 48, 1 48, 1 48, 1 48, 1 48, 1 48, 1 48, 1 48, 1 48, 1 48, 1 48, 1 48, 1 48, 1 48, " ++
  "1 48, 1 48, 1 48, 49 1, 7 1, 2 1, 2 1, 7 1, 3 1, 11 1, 2 1, 2 1, 2 1, 2 1, 2 1, 2 1, 2 1, " ++
  "2 1, 2 1, 2 1, 2 1, 2 1, 2 1, 2 1, 2 1, 2 1, 2 1, 2 1, 2 1, 2 1, 2 1, 2 1, 2 1, 2 1, 2 1, " ++
  "2 1, 2 1, 2 1, 2 1, 2 1, 2 1, 2 1, 2 1, 2 1, 2 1, 2 1, 2 1, 2 1, 2 1, 2 1, 2 1, 2 1, 2 1, " ++
  "2 1, 2 1, 2 1, 2 1, 2 1, 2 1, 9 1, 2 1, 5 1, 31054 1, 2 1, 2 1, 2 1, 2 1, 4 1, 2 1, 2 1, " ++
  "2 1, 2 1, 2 1, 2 1, 2 1, 2 1, 2 1, 2 1, 2 1, 2 1, 2 1, 2 1, 2 1, 2 1, 20 1, 2 1, 2 1, 2 1, " ++
  "2 1, 2 1, 2 1, 2 1, 2 1, 2 1, 2 1, 2 1, 2 1, 2 1, 136 1, 2 1, 2 1, 2 1, 2 1, 2 1, 2 1, 4 1, " ++
  "2 1, 2 1, 2 1, 2 1, 2 1, 2 1, 2 1, 2 1, 2 1, 2 1, 2 1, 2 1, 2 1, 2 1, 2 1, 2 1, 2 1, 2 1, " ++
  "2 1, 2 1, 2 1, 2 1, 2 1, 2 1, 2 1, 2 1, 2 1, 2 1, 2 1, 2 1, 11 1, 2 1, 3 1, 2 1, 2 1, 2 1, " ++
  "2 1, 5 1, 5 1, 2 1, 2 48, 2 1, 2 1, 2 1, 2 1, 2 1, 2 1, 2 1, 2 1, 2 1, 2 1, 11 928, 1 1, " ++
  "2 1, 2 1, 2 1, 2 1, 2 1, 2 1, 2 1, 5 1, 2 1, 3 1, 2 1, 2 1, 2 1, 2 1, 2 1, 2 1, 2 1, 27 1, " ++
  "21264 1, 1052 32, 1 32, 1 32, 1 32, 1 32, 1 32, 1 32, 1 32, 1 32, 1 32, 1 32, 1 32, 1 32, " ++
  "1 32, 1 32, 1 32, 1 32, 1 32, 1 32, 1 32, 1 32, 1 32, 1 32, 1 32, 1 32, 1 32, 1222 40, 1 40, " ++
  "1 40, 1 40, 1 40, 1 40, 1 40, 1 40, 1 40, 1 40, 1 40, 1 40, 1 40, 1 40, 1 40, 1 40, 1 40, " ++
  "1 40, 1 40, 1 40, 1 40, 1 40, 1 40, 1 40, 1 40, 1 40, 1 40, 1 40, 1 40, 1 40, 1 40, 1 40, " ++
  "1 40, 1 40, 1 40, 1 40, 1 40, 1 40, 1 40, 1 40, 137 40, 1 40, 1 40, 1 40, 1 40, 1 40, 1 40, " ++
  "1 40, 1 40, 1 40, 1 40, 1 40, 1 40, 1 40, 1 40, 1 40, 1 40, 1 40, 1 40, 1 40, 1 40, 1 40, " ++
  "1 40, 1 40, 1 40, 1 40, 1 40, 1 40, 1 40, 1 40, 1 40, 1 40, 1 40, 1 40, 1 40, 1 40, 157 39, " ++
  "1 39, 1 39, 1 39, 1 39, 1 39, 1 39, 1 39, 1 39, 1 39, 1 39, 2 39, 1 39, 1 39, 1 39, 1 39, " ++
  "1 39, 1 39, 1 39, 1 39, 1 39, 1 39, 1 39, 1 39, 1 39, 1 39, 2 39, 1 39, 1 39, 1 39, 1 39, " ++
  "1 39, 1 39, 2 39, 1 39, 1771 64, 1 64, 1 64, 1 64, 1 64, 1 64, 1 64, 1 64, 1 64, 1 64, 1 64, " ++
  "1 64, 1 64, 1 64, 1 64, 1 64, 1 64, 1 64, 1 64, 1 64, 1 64, 1 64, 1 64, 1 64, 1 64, 1 64, " ++
  "1 64, 1 64, 1 64, 1 64, 1 64, 1 64, 1 64, 1 64, 1 64, 1 64, 1 64, 1 64, 1 64, 1 64, 1 64, " ++
  "1 64, 1 64, 1 64, 1 64, 1 64, 1 64, 1 64, 1 64, 1 64, 1 64, 158 32, 1 32, 1 32, 1 32, 1 32, " ++
  "1 32, 1 32, 1 32, 1 32, 1 32, 1 32, 1 32, 1 32, 1 32, 1 32, 1 32, 1 32, 1 32, 1 32, 1 32, " ++
  "1 32, 1 32, 2875 32, 1 32, 1 32, 1 32, 1 32, 1 32, 1 32, 1 32, 1 32, 1 32, 1 32, 1 32, 1 32, " ++
  "1 32, 1 32, 1 32, 1 32, 1 32, 1 32, 1 32, 1 32, 1 32, 1 32, 1 32, 1 32, 1 32, 1 32, 1 32, " ++
  "1 32, 1 32, 1 32, 1 32, 21889 32, 1 32, 1 32, 1 32, 1 32, 1 32, 1 32, 1 32, 1 32, 1 32, " ++
  "1 32, 1 32, 1 32, 1 32, 1 32, 1 32, 1 32, 1 32, 1 32, 1 32, 1 32, 1 32, 1 32, 1 32, 1 32, " ++
  "1 32, 1 32, 1 32, 1 32, 1 32, 1 32, 1 32, 65 27, 1 27, 1 27, 1 27, 1 27, 1 27, 1 27, 1 27, " ++
  "1 27, 1 27, 1 27, 1 27, 1 27, 1 27, 1 27, 1 27, 1 27, 1 27, 1 27, 1 27, 1 27, 1 27, 1 27, " ++
  "1 27, 1 27, 31304 34, 1 34, 1 34, 1 34, 1 34, 1 34, 1 34, 1 34, 1 34, 1 34, 1 34, 1 34, " ++
  "1 34, 1 34, 1 34, 1 34, 1 34, 1 34, 1 34, 1 34, 1 34, 1 34, 1 34, 1 34, 1 34, 1 34, 1 34, " ++
  "1 34, 1 34, 1 34, 1 34, 1 34, 1 34, 1 34"

/-- Reads the orbits, `last` being the first member of the orbit before. -/
def readOrbits (last : Nat) : List (List Nat) → List (List Nat)
  | [] => []
  | [] :: rest => readOrbits last rest
  | (gap :: steps) :: rest =>
      let first := last + gap
      runningSums first steps :: readOrbits first rest

/-- Lists of characters that differ in case only. -/
def orbits : List (List Nat) := readOrbits 0 (numberLists orbitTable.toList)

/-- The orbit of a character, the character itself left out if it is alone. -/
def orbitOf (c : Nat) : List Nat := (orbits.find? (·.contains c)).getD []

/-- The least set that holds `s` and is closed under case. -/
def foldCase (s : CharSet) : CharSet :=
  orbits.foldl (fun t orbit =>
    if orbit.any s.holds then orbit.foldl (fun t c => t.insert c c) t else t) s

end AnchorPatch.Unicode
