import Windowing.Coded

/-!
The keys of a keyboard, with the native code and the printed name of each. Codes of printable keys
follow the US layout; `unknown` stands for every key without a code of its own.
-/

namespace Windowing

inductive Key where
  | space | apostrophe | comma | minus | period | slash | num0 | num1 | num2 | num3 | num4 | num5
  | num6 | num7 | num8 | num9 | semicolon | equal | a | b | c | d | e | f | g | h | i | j | k | l
  | m | n | o | p | q | r | s | t | u | v | w | x | y | z | leftBracket | backslash
  | rightBracket | graveAccent | world1 | world2 | escape | enter | tab | backspace | insert
  | delete | right | left | down | up | pageUp | pageDown | home | endKey | capsLock | scrollLock
  | numLock | printScreen | pause | f1 | f2 | f3 | f4 | f5 | f6 | f7 | f8 | f9 | f10 | f11 | f12
  | f13 | f14 | f15 | f16 | f17 | f18 | f19 | f20 | f21 | f22 | f23 | f24 | f25 | kp0 | kp1 | kp2
  | kp3 | kp4 | kp5 | kp6 | kp7 | kp8 | kp9 | kpDecimal | kpDivide | kpMultiply | kpSubtract
  | kpAdd | kpEnter | kpEqual | leftShift | leftControl | leftAlt | leftSuper | rightShift
  | rightControl | rightAlt | rightSuper | menu | unknown
  deriving DecidableEq, Repr, Inhabited

namespace Key

def all : List Key :=
  [.space, .apostrophe, .comma, .minus, .period, .slash, .num0, .num1, .num2, .num3, .num4,
   .num5, .num6, .num7, .num8, .num9, .semicolon, .equal, .a, .b, .c, .d, .e, .f, .g, .h, .i,
   .j, .k, .l, .m, .n, .o, .p, .q, .r, .s, .t, .u, .v, .w, .x, .y, .z, .leftBracket, .backslash,
   .rightBracket, .graveAccent, .world1, .world2, .escape, .enter, .tab, .backspace, .insert,
   .delete, .right, .left, .down, .up, .pageUp, .pageDown, .home, .endKey, .capsLock, .scrollLock,
   .numLock, .printScreen, .pause, .f1, .f2, .f3, .f4, .f5, .f6, .f7, .f8, .f9, .f10, .f11,
   .f12, .f13, .f14, .f15, .f16, .f17, .f18, .f19, .f20, .f21, .f22, .f23, .f24, .f25, .kp0,
   .kp1, .kp2, .kp3, .kp4, .kp5, .kp6, .kp7, .kp8, .kp9, .kpDecimal, .kpDivide, .kpMultiply,
   .kpSubtract, .kpAdd, .kpEnter, .kpEqual, .leftShift, .leftControl, .leftAlt, .leftSuper,
   .rightShift, .rightControl, .rightAlt, .rightSuper, .menu, .unknown]

def code : Key → Int32
  | .space => 32
  | .apostrophe => 39
  | .comma => 44
  | .minus => 45
  | .period => 46
  | .slash => 47
  | .num0 => 48
  | .num1 => 49
  | .num2 => 50
  | .num3 => 51
  | .num4 => 52
  | .num5 => 53
  | .num6 => 54
  | .num7 => 55
  | .num8 => 56
  | .num9 => 57
  | .semicolon => 59
  | .equal => 61
  | .a => 65
  | .b => 66
  | .c => 67
  | .d => 68
  | .e => 69
  | .f => 70
  | .g => 71
  | .h => 72
  | .i => 73
  | .j => 74
  | .k => 75
  | .l => 76
  | .m => 77
  | .n => 78
  | .o => 79
  | .p => 80
  | .q => 81
  | .r => 82
  | .s => 83
  | .t => 84
  | .u => 85
  | .v => 86
  | .w => 87
  | .x => 88
  | .y => 89
  | .z => 90
  | .leftBracket => 91
  | .backslash => 92
  | .rightBracket => 93
  | .graveAccent => 96
  | .world1 => 161
  | .world2 => 162
  | .escape => 256
  | .enter => 257
  | .tab => 258
  | .backspace => 259
  | .insert => 260
  | .delete => 261
  | .right => 262
  | .left => 263
  | .down => 264
  | .up => 265
  | .pageUp => 266
  | .pageDown => 267
  | .home => 268
  | .endKey => 269
  | .capsLock => 280
  | .scrollLock => 281
  | .numLock => 282
  | .printScreen => 283
  | .pause => 284
  | .f1 => 290
  | .f2 => 291
  | .f3 => 292
  | .f4 => 293
  | .f5 => 294
  | .f6 => 295
  | .f7 => 296
  | .f8 => 297
  | .f9 => 298
  | .f10 => 299
  | .f11 => 300
  | .f12 => 301
  | .f13 => 302
  | .f14 => 303
  | .f15 => 304
  | .f16 => 305
  | .f17 => 306
  | .f18 => 307
  | .f19 => 308
  | .f20 => 309
  | .f21 => 310
  | .f22 => 311
  | .f23 => 312
  | .f24 => 313
  | .f25 => 314
  | .kp0 => 320
  | .kp1 => 321
  | .kp2 => 322
  | .kp3 => 323
  | .kp4 => 324
  | .kp5 => 325
  | .kp6 => 326
  | .kp7 => 327
  | .kp8 => 328
  | .kp9 => 329
  | .kpDecimal => 330
  | .kpDivide => 331
  | .kpMultiply => 332
  | .kpSubtract => 333
  | .kpAdd => 334
  | .kpEnter => 335
  | .kpEqual => 336
  | .leftShift => 340
  | .leftControl => 341
  | .leftAlt => 342
  | .leftSuper => 343
  | .rightShift => 344
  | .rightControl => 345
  | .rightAlt => 346
  | .rightSuper => 347
  | .menu => 348
  | .unknown => -1

def name : Key → String
  | .space => "Space"
  | .apostrophe => "Apostrophe"
  | .comma => "Comma"
  | .minus => "Minus"
  | .period => "Period"
  | .slash => "Slash"
  | .num0 => "Num0"
  | .num1 => "Num1"
  | .num2 => "Num2"
  | .num3 => "Num3"
  | .num4 => "Num4"
  | .num5 => "Num5"
  | .num6 => "Num6"
  | .num7 => "Num7"
  | .num8 => "Num8"
  | .num9 => "Num9"
  | .semicolon => "Semicolon"
  | .equal => "Equal"
  | .a => "A"
  | .b => "B"
  | .c => "C"
  | .d => "D"
  | .e => "E"
  | .f => "F"
  | .g => "G"
  | .h => "H"
  | .i => "I"
  | .j => "J"
  | .k => "K"
  | .l => "L"
  | .m => "M"
  | .n => "N"
  | .o => "O"
  | .p => "P"
  | .q => "Q"
  | .r => "R"
  | .s => "S"
  | .t => "T"
  | .u => "U"
  | .v => "V"
  | .w => "W"
  | .x => "X"
  | .y => "Y"
  | .z => "Z"
  | .leftBracket => "LeftBracket"
  | .backslash => "Backslash"
  | .rightBracket => "RightBracket"
  | .graveAccent => "GraveAccent"
  | .world1 => "World1"
  | .world2 => "World2"
  | .escape => "Escape"
  | .enter => "Enter"
  | .tab => "Tab"
  | .backspace => "Backspace"
  | .insert => "Insert"
  | .delete => "Delete"
  | .right => "Right"
  | .left => "Left"
  | .down => "Down"
  | .up => "Up"
  | .pageUp => "PageUp"
  | .pageDown => "PageDown"
  | .home => "Home"
  | .endKey => "End"
  | .capsLock => "CapsLock"
  | .scrollLock => "ScrollLock"
  | .numLock => "NumLock"
  | .printScreen => "PrintScreen"
  | .pause => "Pause"
  | .f1 => "F1"
  | .f2 => "F2"
  | .f3 => "F3"
  | .f4 => "F4"
  | .f5 => "F5"
  | .f6 => "F6"
  | .f7 => "F7"
  | .f8 => "F8"
  | .f9 => "F9"
  | .f10 => "F10"
  | .f11 => "F11"
  | .f12 => "F12"
  | .f13 => "F13"
  | .f14 => "F14"
  | .f15 => "F15"
  | .f16 => "F16"
  | .f17 => "F17"
  | .f18 => "F18"
  | .f19 => "F19"
  | .f20 => "F20"
  | .f21 => "F21"
  | .f22 => "F22"
  | .f23 => "F23"
  | .f24 => "F24"
  | .f25 => "F25"
  | .kp0 => "Kp0"
  | .kp1 => "Kp1"
  | .kp2 => "Kp2"
  | .kp3 => "Kp3"
  | .kp4 => "Kp4"
  | .kp5 => "Kp5"
  | .kp6 => "Kp6"
  | .kp7 => "Kp7"
  | .kp8 => "Kp8"
  | .kp9 => "Kp9"
  | .kpDecimal => "KpDecimal"
  | .kpDivide => "KpDivide"
  | .kpMultiply => "KpMultiply"
  | .kpSubtract => "KpSubtract"
  | .kpAdd => "KpAdd"
  | .kpEnter => "KpEnter"
  | .kpEqual => "KpEqual"
  | .leftShift => "LeftShift"
  | .leftControl => "LeftControl"
  | .leftAlt => "LeftAlt"
  | .leftSuper => "LeftSuper"
  | .rightShift => "RightShift"
  | .rightControl => "RightControl"
  | .rightAlt => "RightAlt"
  | .rightSuper => "RightSuper"
  | .menu => "Menu"
  | .unknown => "Unknown"

instance : Coded Key where
  all := all
  code := code
  name := name
  mem_all := by intro key; cases key <;> decide +kernel
  codes_nodup := by decide +kernel

end Key

end Windowing
