import FindReplace.Text.Ranges

/-!
Numbers: the code points with a numeric value in Unicode 14, and among them the decimal digits
(general category Nd), which come in runs of ten in order of value.
-/
namespace FindReplace.Text

/-- Boundaries of the code points from 128 on that have a numeric value. -/
def numericBounds : Array Nat := #[
  178, 180, 185, 186, 188, 191, 1632, 1642, 1776, 1786, 1984, 1994, 2406, 2416, 2534, 2544, 2548,
  2554, 2662, 2672, 2790, 2800, 2918, 2928, 2930, 2936, 3046, 3059, 3174, 3184, 3192, 3199, 3302,
  3312, 3416, 3423, 3430, 3449, 3558, 3568, 3664, 3674, 3792, 3802, 3872, 3892, 4160, 4170, 4240,
  4250, 4969, 4989, 5870, 5873, 6112, 6122, 6128, 6138, 6160, 6170, 6470, 6480, 6608, 6619, 6784,
  6794, 6800, 6810, 6992, 7002, 7088, 7098, 7232, 7242, 7248, 7258, 8304, 8305, 8308, 8314, 8320,
  8330, 8528, 8579, 8581, 8586, 9312, 9372, 9450, 9472, 10102, 10132, 11517, 11518, 12295, 12296,
  12321, 12330, 12344, 12347, 12690, 12694, 12832, 12842, 12872, 12880, 12881, 12896, 12928,
  12938, 12977, 12992, 13317, 13318, 13443, 13444, 14378, 14379, 15181, 15182, 19968, 19969,
  19971, 19972, 19975, 19976, 19977, 19978, 20061, 20062, 20108, 20109, 20116, 20117, 20118,
  20119, 20159, 20161, 20191, 20192, 20200, 20201, 20237, 20238, 20336, 20337, 20740, 20741,
  20806, 20807, 20841, 20842, 20843, 20844, 20845, 20846, 21313, 21314, 21315, 21318, 21324,
  21325, 21441, 21445, 22235, 22236, 22769, 22770, 22777, 22778, 24186, 24187, 24318, 24320,
  24332, 24335, 24336, 24337, 25342, 25343, 25420, 25421, 26578, 26579, 28422, 28423, 29590,
  29591, 30334, 30335, 32902, 32903, 33836, 33837, 36014, 36015, 36019, 36020, 36144, 36145,
  38433, 38434, 38470, 38471, 38476, 38477, 38520, 38521, 38646, 38647, 42528, 42538, 42726,
  42736, 43056, 43062, 43216, 43226, 43264, 43274, 43472, 43482, 43504, 43514, 43600, 43610,
  44016, 44026, 63851, 63852, 63859, 63860, 63864, 63865, 63922, 63923, 63953, 63954, 63955,
  63956, 63997, 63998, 65296, 65306, 65799, 65844, 65856, 65913, 65930, 65932, 66273, 66300,
  66336, 66340, 66369, 66370, 66378, 66379, 66513, 66518, 66720, 66730, 67672, 67680, 67705,
  67712, 67751, 67760, 67835, 67840, 67862, 67868, 68028, 68030, 68032, 68048, 68050, 68096,
  68160, 68169, 68221, 68223, 68253, 68256, 68331, 68336, 68440, 68448, 68472, 68480, 68521,
  68528, 68858, 68864, 68912, 68922, 69216, 69247, 69405, 69415, 69457, 69461, 69573, 69580,
  69714, 69744, 69872, 69882, 69942, 69952, 70096, 70106, 70113, 70133, 70384, 70394, 70736,
  70746, 70864, 70874, 71248, 71258, 71360, 71370, 71472, 71484, 71904, 71923, 72016, 72026,
  72784, 72813, 73040, 73050, 73120, 73130, 73664, 73685, 74752, 74863, 92768, 92778, 92864,
  92874, 93008, 93018, 93019, 93026, 93824, 93847, 119520, 119540, 119648, 119673, 120782,
  120832, 123200, 123210, 123632, 123642, 125127, 125136, 125264, 125274, 126065, 126124, 126125,
  126128, 126129, 126133, 126209, 126254, 126255, 126270, 127232, 127245, 130032, 130042, 131073,
  131074, 131172, 131173, 131298, 131299, 131361, 131362, 133418, 133419, 133507, 133508, 133516,
  133517, 133532, 133533, 133866, 133867, 133885, 133886, 133913, 133914, 140176, 140177, 141720,
  141721, 146203, 146204, 156269, 156270, 194704, 194705]

/-- Boundaries of the decimal digits from 128 on. -/
def digitBounds : Array Nat := #[
  1632, 1642, 1776, 1786, 1984, 1994, 2406, 2416, 2534, 2544, 2662, 2672, 2790, 2800, 2918, 2928,
  3046, 3056, 3174, 3184, 3302, 3312, 3430, 3440, 3558, 3568, 3664, 3674, 3792, 3802, 3872, 3882,
  4160, 4170, 4240, 4250, 6112, 6122, 6160, 6170, 6470, 6480, 6608, 6618, 6784, 6794, 6800, 6810,
  6992, 7002, 7088, 7098, 7232, 7242, 7248, 7258, 42528, 42538, 43216, 43226, 43264, 43274,
  43472, 43482, 43504, 43514, 43600, 43610, 44016, 44026, 65296, 65306, 66720, 66730, 68912,
  68922, 69734, 69744, 69872, 69882, 69942, 69952, 70096, 70106, 70384, 70394, 70736, 70746,
  70864, 70874, 71248, 71258, 71360, 71370, 71472, 71482, 71904, 71914, 72016, 72026, 72784,
  72794, 73040, 73050, 73120, 73130, 92768, 92778, 92864, 92874, 93008, 93018, 120782, 120832,
  123200, 123210, 123632, 123642, 125264, 125274, 130032, 130042]

def isAsciiDigit (n : Nat) : Bool := 48 ≤ n && n ≤ 57

def isNumeric (n : Nat) : Bool := if n < 128 then isAsciiDigit n else inRanges numericBounds n

def isDigit (n : Nat) : Bool := if n < 128 then isAsciiDigit n else inRanges digitBounds n

/-- The value of a decimal digit of any script. -/
def digitValue? (n : Nat) : Option Nat :=
  if n < 128 then if isAsciiDigit n then some (n - 48) else none
  else (rangeStart? digitBounds n).map fun first => (n - first) % 10

end FindReplace.Text
