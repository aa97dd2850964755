import KWindowSystem.KKeyServer.LetterCase

/-!
# Keysyms and Qt keys

A Qt key code is the code of a key with modifiers above it.  `symXModXToKeyQt` makes one of a key press, and
`keyQtToSymXs` finds the keysyms to grab for it.  Both take keysyms below 0x1000 for the characters with their
codes.
-/

open FlagTable

namespace Qt

def KeyboardModifierMask : BitVec 32 := 0xfe000000
def KeypadModifier : BitVec 32 := 0x20000000
def Key_0 : BitVec 32 := 0x30
def Key_9 : BitVec 32 := 0x39
def Key_unknown : BitVec 32 := 0x01ffffff

end Qt

namespace KWindowSystem

def xkKPSpace : KeySym := 0xff80
def xkKP0 : KeySym := 0xffb0
def xkKP9 : KeySym := 0xffb9
def xkKPEqual : KeySym := 0xffbd

structure TransKey where
  keySymQt : BitVec 32
  keySymX : KeySym
deriving DecidableEq, Repr

namespace KKeyServer

def rgQtToSymX : List TransKey := [
    ⟨0x01000000, 0xff1b⟩,  -- Key_Escape, XK_Escape
    ⟨0x01000001, 0xff09⟩,  -- Key_Tab, XK_Tab
    ⟨0x01000002, 0xfe20⟩,  -- Key_Backtab, XK_ISO_Left_Tab
    ⟨0x01000003, 0xff08⟩,  -- Key_Backspace, XK_BackSpace
    ⟨0x01000004, 0xff0d⟩,  -- Key_Return, XK_Return
    ⟨0x01000006, 0xff63⟩,  -- Key_Insert, XK_Insert
    ⟨0x01000007, 0xffff⟩,  -- Key_Delete, XK_Delete
    ⟨0x01000008, 0xff13⟩,  -- Key_Pause, XK_Pause
    ⟨0x01000009, 0xff61⟩,  -- Key_Print, XK_Print
    ⟨0x0100000a, 0xff15⟩,  -- Key_SysReq, XK_Sys_Req
    ⟨0x01000010, 0xff50⟩,  -- Key_Home, XK_Home
    ⟨0x01000011, 0xff57⟩,  -- Key_End, XK_End
    ⟨0x01000012, 0xff51⟩,  -- Key_Left, XK_Left
    ⟨0x01000013, 0xff52⟩,  -- Key_Up, XK_Up
    ⟨0x01000014, 0xff53⟩,  -- Key_Right, XK_Right
    ⟨0x01000015, 0xff54⟩,  -- Key_Down, XK_Down
    ⟨0x01000016, 0xff55⟩,  -- Key_PageUp, XK_Prior
    ⟨0x01000017, 0xff56⟩,  -- Key_PageDown, XK_Next
    ⟨0x01000020, 0xffe1⟩,  -- Key_Shift, XK_Shift_L
    ⟨0x01000020, 0xffe2⟩,  -- Key_Shift, XK_Shift_R
    ⟨0x01000020, 0xffe6⟩,  -- Key_Shift, XK_Shift_Lock
    ⟨0x01000021, 0xffe3⟩,  -- Key_Control, XK_Control_L
    ⟨0x01000021, 0xffe4⟩,  -- Key_Control, XK_Control_R
    ⟨0x01000022, 0xffe7⟩,  -- Key_Meta, XK_Meta_L
    ⟨0x01000022, 0xffe8⟩,  -- Key_Meta, XK_Meta_R
    ⟨0x01000023, 0xffe9⟩,  -- Key_Alt, XK_Alt_L
    ⟨0x01000023, 0xffea⟩,  -- Key_Alt, XK_Alt_R
    ⟨0x01000024, 0xffe5⟩,  -- Key_CapsLock, XK_Caps_Lock
    ⟨0x01000025, 0xff7f⟩,  -- Key_NumLock, XK_Num_Lock
    ⟨0x01000026, 0xff14⟩,  -- Key_ScrollLock, XK_Scroll_Lock
    ⟨0x01000030, 0xffbe⟩,  -- Key_F1, XK_F1
    ⟨0x01000031, 0xffbf⟩,  -- Key_F2, XK_F2
    ⟨0x01000032, 0xffc0⟩,  -- Key_F3, XK_F3
    ⟨0x01000033, 0xffc1⟩,  -- Key_F4, XK_F4
    ⟨0x01000034, 0xffc2⟩,  -- Key_F5, XK_F5
    ⟨0x01000035, 0xffc3⟩,  -- Key_F6, XK_F6
    ⟨0x01000036, 0xffc4⟩,  -- Key_F7, XK_F7
    ⟨0x01000037, 0xffc5⟩,  -- Key_F8, XK_F8
    ⟨0x01000038, 0xffc6⟩,  -- Key_F9, XK_F9
    ⟨0x01000039, 0xffc7⟩,  -- Key_F10, XK_F10
    ⟨0x0100003a, 0xffc8⟩,  -- Key_F11, XK_F11
    ⟨0x0100003b, 0xffc9⟩,  -- Key_F12, XK_F12
    ⟨0x0100003c, 0xffca⟩,  -- Key_F13, XK_F13
    ⟨0x0100003d, 0xffcb⟩,  -- Key_F14, XK_F14
    ⟨0x0100003e, 0xffcc⟩,  -- Key_F15, XK_F15
    ⟨0x0100003f, 0xffcd⟩,  -- Key_F16, XK_F16
    ⟨0x01000040, 0xffce⟩,  -- Key_F17, XK_F17
    ⟨0x01000041, 0xffcf⟩,  -- Key_F18, XK_F18
    ⟨0x01000042, 0xffd0⟩,  -- Key_F19, XK_F19
    ⟨0x01000043, 0xffd1⟩,  -- Key_F20, XK_F20
    ⟨0x01000044, 0xffd2⟩,  -- Key_F21, XK_F21
    ⟨0x01000045, 0xffd3⟩,  -- Key_F22, XK_F22
    ⟨0x01000046, 0xffd4⟩,  -- Key_F23, XK_F23
    ⟨0x01000047, 0xffd5⟩,  -- Key_F24, XK_F24
    ⟨0x01000048, 0xffd6⟩,  -- Key_F25, XK_F25
    ⟨0x01000049, 0xffd7⟩,  -- Key_F26, XK_F26
    ⟨0x0100004a, 0xffd8⟩,  -- Key_F27, XK_F27
    ⟨0x0100004b, 0xffd9⟩,  -- Key_F28, XK_F28
    ⟨0x0100004c, 0xffda⟩,  -- Key_F29, XK_F29
    ⟨0x0100004d, 0xffdb⟩,  -- Key_F30, XK_F30
    ⟨0x0100004e, 0xffdc⟩,  -- Key_F31, XK_F31
    ⟨0x0100004f, 0xffdd⟩,  -- Key_F32, XK_F32
    ⟨0x01000050, 0xffde⟩,  -- Key_F33, XK_F33
    ⟨0x01000051, 0xffdf⟩,  -- Key_F34, XK_F34
    ⟨0x01000052, 0xffe0⟩,  -- Key_F35, XK_F35
    ⟨0x01000053, 0xffeb⟩,  -- Key_Super_L, XK_Super_L
    ⟨0x01000054, 0xffec⟩,  -- Key_Super_R, XK_Super_R
    ⟨0x01000055, 0xff67⟩,  -- Key_Menu, XK_Menu
    ⟨0x01000056, 0xffed⟩,  -- Key_Hyper_L, XK_Hyper_L
    ⟨0x01000057, 0xffee⟩,  -- Key_Hyper_R, XK_Hyper_R
    ⟨0x01000058, 0xff6a⟩,  -- Key_Help, XK_Help
    ⟨0x00000020, 0xff80⟩,  -- Key_Space, XK_KP_Space
    ⟨0x01000001, 0xff89⟩,  -- Key_Tab, XK_KP_Tab
    ⟨0x01000005, 0xff8d⟩,  -- Key_Enter, XK_KP_Enter
    ⟨0x01000010, 0xff95⟩,  -- Key_Home, XK_KP_Home
    ⟨0x01000012, 0xff96⟩,  -- Key_Left, XK_KP_Left
    ⟨0x01000013, 0xff97⟩,  -- Key_Up, XK_KP_Up
    ⟨0x01000014, 0xff98⟩,  -- Key_Right, XK_KP_Right
    ⟨0x01000015, 0xff99⟩,  -- Key_Down, XK_KP_Down
    ⟨0x01000016, 0xff9a⟩,  -- Key_PageUp, XK_KP_Prior
    ⟨0x01000017, 0xff9b⟩,  -- Key_PageDown, XK_KP_Next
    ⟨0x01000011, 0xff9c⟩,  -- Key_End, XK_KP_End
    ⟨0x0100000b, 0xff9d⟩,  -- Key_Clear, XK_KP_Begin
    ⟨0x01000006, 0xff9e⟩,  -- Key_Insert, XK_KP_Insert
    ⟨0x01000007, 0xff9f⟩,  -- Key_Delete, XK_KP_Delete
    ⟨0x0000003d, 0xffbd⟩,  -- Key_Equal, XK_KP_Equal
    ⟨0x0000002a, 0xffaa⟩,  -- Key_Asterisk, XK_KP_Multiply
    ⟨0x0000002b, 0xffab⟩,  -- Key_Plus, XK_KP_Add
    ⟨0x0000002c, 0xffac⟩,  -- Key_Comma, XK_KP_Separator
    ⟨0x0000002d, 0xffad⟩,  -- Key_Minus, XK_KP_Subtract
    ⟨0x0000002e, 0xffae⟩,  -- Key_Period, XK_KP_Decimal
    ⟨0x0000002f, 0xffaf⟩,  -- Key_Slash, XK_KP_Divide
    ⟨0x01000061, 0x1008ff26⟩,  -- Key_Back, XF86XK_Back
    ⟨0x01000062, 0x1008ff27⟩,  -- Key_Forward, XF86XK_Forward
    ⟨0x01000063, 0x1008ff28⟩,  -- Key_Stop, XF86XK_Stop
    ⟨0x01000064, 0x1008ff29⟩,  -- Key_Refresh, XF86XK_Refresh
    ⟨0x01000091, 0x1008ff30⟩,  -- Key_Favorites, XF86XK_Favorites
    ⟨0x010000a1, 0x1008ff32⟩,  -- Key_LaunchMedia, XF86XK_AudioMedia
    ⟨0x01000094, 0x1008ff38⟩,  -- Key_OpenUrl, XF86XK_OpenURL
    ⟨0x01000090, 0x1008ff18⟩,  -- Key_HomePage, XF86XK_HomePage
    ⟨0x01000092, 0x1008ff1b⟩,  -- Key_Search, XF86XK_Search
    ⟨0x01000070, 0x1008ff11⟩,  -- Key_VolumeDown, XF86XK_AudioLowerVolume
    ⟨0x01000071, 0x1008ff12⟩,  -- Key_VolumeMute, XF86XK_AudioMute
    ⟨0x01000072, 0x1008ff13⟩,  -- Key_VolumeUp, XF86XK_AudioRaiseVolume
    ⟨0x01000080, 0x1008ff14⟩,  -- Key_MediaPlay, XF86XK_AudioPlay
    ⟨0x01000081, 0x1008ff15⟩,  -- Key_MediaStop, XF86XK_AudioStop
    ⟨0x01000082, 0x1008ff16⟩,  -- Key_MediaPrevious, XF86XK_AudioPrev
    ⟨0x01000083, 0x1008ff17⟩,  -- Key_MediaNext, XF86XK_AudioNext
    ⟨0x01000084, 0x1008ff1c⟩,  -- Key_MediaRecord, XF86XK_AudioRecord
    ⟨0x01000085, 0x1008ff31⟩,  -- Key_MediaPause, XF86XK_AudioPause
    ⟨0x010000a0, 0x1008ff19⟩,  -- Key_LaunchMail, XF86XK_Mail
    ⟨0x010000a1, 0x1008ff33⟩,  -- Key_LaunchMedia, XF86XK_MyComputer
    ⟨0x010000bc, 0x1008ff1e⟩,  -- Key_Memo, XF86XK_Memo
    ⟨0x010000cc, 0x1008ff1f⟩,  -- Key_ToDoList, XF86XK_ToDoList
    ⟨0x010000e4, 0x1008ff20⟩,  -- Key_Calendar, XF86XK_Calendar
    ⟨0x0100010b, 0x1008ff21⟩,  -- Key_PowerDown, XF86XK_PowerDown
    ⟨0x0100010d, 0x1008ff22⟩,  -- Key_ContrastAdjust, XF86XK_ContrastAdjust
    ⟨0x01000093, 0x1008ff10⟩,  -- Key_Standby, XF86XK_Standby
    ⟨0x010000b2, 0x1008ff02⟩,  -- Key_MonBrightnessUp, XF86XK_MonBrightnessUp
    ⟨0x010000b3, 0x1008ff03⟩,  -- Key_MonBrightnessDown, XF86XK_MonBrightnessDown
    ⟨0x010000b4, 0x1008ff04⟩,  -- Key_KeyboardLightOnOff, XF86XK_KbdLightOnOff
    ⟨0x010000b5, 0x1008ff05⟩,  -- Key_KeyboardBrightnessUp, XF86XK_KbdBrightnessUp
    ⟨0x010000b6, 0x1008ff06⟩,  -- Key_KeyboardBrightnessDown, XF86XK_KbdBrightnessDown
    ⟨0x010000b7, 0x1008ff2a⟩,  -- Key_PowerOff, XF86XK_PowerOff
    ⟨0x010000b8, 0x1008ff2b⟩,  -- Key_WakeUp, XF86XK_WakeUp
    ⟨0x010000b9, 0x1008ff2c⟩,  -- Key_Eject, XF86XK_Eject
    ⟨0x010000ba, 0x1008ff2d⟩,  -- Key_ScreenSaver, XF86XK_ScreenSaver
    ⟨0x010000bb, 0x1008ff2e⟩,  -- Key_WWW, XF86XK_WWW
    ⟨0x01020004, 0x1008ff2f⟩,  -- Key_Sleep, XF86XK_Sleep
    ⟨0x010000bd, 0x1008ff35⟩,  -- Key_LightBulb, XF86XK_LightBulb
    ⟨0x010000be, 0x1008ff36⟩,  -- Key_Shop, XF86XK_Shop
    ⟨0x010000bf, 0x1008ff37⟩,  -- Key_History, XF86XK_History
    ⟨0x010000c0, 0x1008ff39⟩,  -- Key_AddFavorite, XF86XK_AddFavorite
    ⟨0x010000c1, 0x1008ff3a⟩,  -- Key_HotLinks, XF86XK_HotLinks
    ⟨0x010000c2, 0x1008ff3b⟩,  -- Key_BrightnessAdjust, XF86XK_BrightnessAdjust
    ⟨0x010000c3, 0x1008ff3c⟩,  -- Key_Finance, XF86XK_Finance
    ⟨0x010000c4, 0x1008ff3d⟩,  -- Key_Community, XF86XK_Community
    ⟨0x010000c5, 0x1008ff3e⟩,  -- Key_AudioRewind, XF86XK_AudioRewind
    ⟨0x010000c6, 0x1008ff3f⟩,  -- Key_BackForward, XF86XK_BackForward
    ⟨0x010000c7, 0x1008ff50⟩,  -- Key_ApplicationLeft, XF86XK_ApplicationLeft
    ⟨0x010000c8, 0x1008ff51⟩,  -- Key_ApplicationRight, XF86XK_ApplicationRight
    ⟨0x010000c9, 0x1008ff52⟩,  -- Key_Book, XF86XK_Book
    ⟨0x010000ca, 0x1008ff53⟩,  -- Key_CD, XF86XK_CD
    ⟨0x010000cb, 0x1008ff54⟩,  -- Key_Calculator, XF86XK_Calculater
    ⟨0x010000cb, 0x1008ff1d⟩,  -- Key_Calculator, XF86XK_Calculator
    ⟨0x0100000b, 0x1008ff55⟩,  -- Key_Clear, XF86XK_Clear
    ⟨0x010000cd, 0x1008fe21⟩,  -- Key_ClearGrab, XF86XK_ClearGrab
    ⟨0x010000ce, 0x1008ff56⟩,  -- Key_Close, XF86XK_Close
    ⟨0x010000cf, 0x1008ff57⟩,  -- Key_Copy, XF86XK_Copy
    ⟨0x010000d0, 0x1008ff58⟩,  -- Key_Cut, XF86XK_Cut
    ⟨0x010000d1, 0x1008ff59⟩,  -- Key_Display, XF86XK_Display
    ⟨0x010000d2, 0x1008ff5a⟩,  -- Key_DOS, XF86XK_DOS
    ⟨0x010000d3, 0x1008ff5b⟩,  -- Key_Documents, XF86XK_Documents
    ⟨0x010000d4, 0x1008ff5c⟩,  -- Key_Excel, XF86XK_Excel
    ⟨0x010000d5, 0x1008ff5d⟩,  -- Key_Explorer, XF86XK_Explorer
    ⟨0x010000d6, 0x1008ff5e⟩,  -- Key_Game, XF86XK_Game
    ⟨0x010000d7, 0x1008ff5f⟩,  -- Key_Go, XF86XK_Go
    ⟨0x010000d8, 0x1008ff60⟩,  -- Key_iTouch, XF86XK_iTouch
    ⟨0x010000d9, 0x1008ff61⟩,  -- Key_LogOff, XF86XK_LogOff
    ⟨0x010000da, 0x1008ff62⟩,  -- Key_Market, XF86XK_Market
    ⟨0x010000db, 0x1008ff63⟩,  -- Key_Meeting, XF86XK_Meeting
    ⟨0x010000dc, 0x1008ff65⟩,  -- Key_MenuKB, XF86XK_MenuKB
    ⟨0x010000dd, 0x1008ff66⟩,  -- Key_MenuPB, XF86XK_MenuPB
    ⟨0x010000de, 0x1008ff67⟩,  -- Key_MySites, XF86XK_MySites
    ⟨0x01000120, 0x1008ff68⟩,  -- Key_New, XF86XK_New
    ⟨0x010000df, 0x1008ff69⟩,  -- Key_News, XF86XK_News
    ⟨0x010000e0, 0x1008ff6a⟩,  -- Key_OfficeHome, XF86XK_OfficeHome
    ⟨0x01000121, 0x1008ff6b⟩,  -- Key_Open, XF86XK_Open
    ⟨0x010000e1, 0x1008ff6c⟩,  -- Key_Option, XF86XK_Option
    ⟨0x010000e2, 0x1008ff6d⟩,  -- Key_Paste, XF86XK_Paste
    ⟨0x010000e3, 0x1008ff6e⟩,  -- Key_Phone, XF86XK_Phone
    ⟨0x010000e5, 0x1008ff72⟩,  -- Key_Reply, XF86XK_Reply
    ⟨0x010000e6, 0x1008ff73⟩,  -- Key_Reload, XF86XK_Reload
    ⟨0x010000e7, 0x1008ff74⟩,  -- Key_RotateWindows, XF86XK_RotateWindows
    ⟨0x010000e8, 0x1008ff75⟩,  -- Key_RotationPB, XF86XK_RotationPB
    ⟨0x010000e9, 0x1008ff76⟩,  -- Key_RotationKB, XF86XK_RotationKB
    ⟨0x010000ea, 0x1008ff77⟩,  -- Key_Save, XF86XK_Save
    ⟨0x010000eb, 0x1008ff7b⟩,  -- Key_Send, XF86XK_Send
    ⟨0x010000ec, 0x1008ff7c⟩,  -- Key_Spell, XF86XK_Spell
    ⟨0x010000ed, 0x1008ff7d⟩,  -- Key_SplitScreen, XF86XK_SplitScreen
    ⟨0x010000ee, 0x1008ff7e⟩,  -- Key_Support, XF86XK_Support
    ⟨0x010000ef, 0x1008ff7f⟩,  -- Key_TaskPane, XF86XK_TaskPane
    ⟨0x010000f0, 0x1008ff80⟩,  -- Key_Terminal, XF86XK_Terminal
    ⟨0x010000f1, 0x1008ff81⟩,  -- Key_Tools, XF86XK_Tools
    ⟨0x010000f2, 0x1008ff82⟩,  -- Key_Travel, XF86XK_Travel
    ⟨0x010000f3, 0x1008ff87⟩,  -- Key_Video, XF86XK_Video
    ⟨0x010000f4, 0x1008ff89⟩,  -- Key_Word, XF86XK_Word
    ⟨0x010000f5, 0x1008ff8a⟩,  -- Key_Xfer, XF86XK_Xfer
    ⟨0x010000f6, 0x1008ff8b⟩,  -- Key_ZoomIn, XF86XK_ZoomIn
    ⟨0x010000f7, 0x1008ff8c⟩,  -- Key_ZoomOut, XF86XK_ZoomOut
    ⟨0x010000f8, 0x1008ff8d⟩,  -- Key_Away, XF86XK_Away
    ⟨0x010000f9, 0x1008ff8e⟩,  -- Key_Messenger, XF86XK_Messenger
    ⟨0x010000fa, 0x1008ff8f⟩,  -- Key_WebCam, XF86XK_WebCam
    ⟨0x010000fb, 0x1008ff90⟩,  -- Key_MailForward, XF86XK_MailForward
    ⟨0x010000fc, 0x1008ff91⟩,  -- Key_Pictures, XF86XK_Pictures
    ⟨0x010000fd, 0x1008ff92⟩,  -- Key_Music, XF86XK_Music
    ⟨0x010000fe, 0x1008ff93⟩,  -- Key_Battery, XF86XK_Battery
    ⟨0x010000ff, 0x1008ff94⟩,  -- Key_Bluetooth, XF86XK_Bluetooth
    ⟨0x01000100, 0x1008ff95⟩,  -- Key_WLAN, XF86XK_WLAN
    ⟨0x01000101, 0x1008ff96⟩,  -- Key_UWB, XF86XK_UWB
    ⟨0x01000102, 0x1008ff97⟩,  -- Key_AudioForward, XF86XK_AudioForward
    ⟨0x01000103, 0x1008ff98⟩,  -- Key_AudioRepeat, XF86XK_AudioRepeat
    ⟨0x01000104, 0x1008ff99⟩,  -- Key_AudioRandomPlay, XF86XK_AudioRandomPlay
    ⟨0x01000105, 0x1008ff9a⟩,  -- Key_Subtitle, XF86XK_Subtitle
    ⟨0x01000106, 0x1008ff9b⟩,  -- Key_AudioCycleTrack, XF86XK_AudioCycleTrack
    ⟨0x01000107, 0x1008ff9f⟩,  -- Key_Time, XF86XK_Time
    ⟨0x01010000, 0x1008ffa0⟩,  -- Key_Select, XF86XK_Select
    ⟨0x01000109, 0x1008ffa1⟩,  -- Key_View, XF86XK_View
    ⟨0x0100010a, 0x1008ffa2⟩,  -- Key_TopMenu, XF86XK_TopMenu
    ⟨0x01000114, 0x1008ffa3⟩,  -- Key_Red, XF86XK_Red
    ⟨0x01000115, 0x1008ffa4⟩,  -- Key_Green, XF86XK_Green
    ⟨0x01000116, 0x1008ffa5⟩,  -- Key_Yellow, XF86XK_Yellow
    ⟨0x01000117, 0x1008ffa6⟩,  -- Key_Blue, XF86XK_Blue
    ⟨0x010000ff, 0x1008ff94⟩,  -- Key_Bluetooth, XF86XK_Bluetooth
    ⟨0x0100010c, 0x1008ffa7⟩,  -- Key_Suspend, XF86XK_Suspend
    ⟨0x01000108, 0x1008ffa8⟩,  -- Key_Hibernate, XF86XK_Hibernate
    ⟨0x01000110, 0x1008ffa9⟩,  -- Key_TouchpadToggle, XF86XK_TouchpadToggle
    ⟨0x01000111, 0x1008ffb0⟩,  -- Key_TouchpadOn, XF86XK_TouchpadOn
    ⟨0x01000112, 0x1008ffb1⟩,  -- Key_TouchpadOff, XF86XK_TouchpadOff
    ⟨0x01000113, 0x1008ffb2⟩,  -- Key_MicMute, XF86XK_AudioMicMute
    ⟨0x010000a2, 0x1008ff40⟩,  -- Key_Launch0, XF86XK_Launch0
    ⟨0x010000a3, 0x1008ff41⟩,  -- Key_Launch1, XF86XK_Launch1
    ⟨0x010000a4, 0x1008ff42⟩,  -- Key_Launch2, XF86XK_Launch2
    ⟨0x010000a5, 0x1008ff43⟩,  -- Key_Launch3, XF86XK_Launch3
    ⟨0x010000a6, 0x1008ff44⟩,  -- Key_Launch4, XF86XK_Launch4
    ⟨0x010000a7, 0x1008ff45⟩,  -- Key_Launch5, XF86XK_Launch5
    ⟨0x010000a8, 0x1008ff46⟩,  -- Key_Launch6, XF86XK_Launch6
    ⟨0x010000a9, 0x1008ff47⟩,  -- Key_Launch7, XF86XK_Launch7
    ⟨0x010000aa, 0x1008ff48⟩,  -- Key_Launch8, XF86XK_Launch8
    ⟨0x010000ab, 0x1008ff49⟩,  -- Key_Launch9, XF86XK_Launch9
    ⟨0x010000ac, 0x1008ff4a⟩,  -- Key_LaunchA, XF86XK_LaunchA
    ⟨0x010000ad, 0x1008ff4b⟩,  -- Key_LaunchB, XF86XK_LaunchB
    ⟨0x010000ae, 0x1008ff4c⟩,  -- Key_LaunchC, XF86XK_LaunchC
    ⟨0x010000af, 0x1008ff4d⟩,  -- Key_LaunchD, XF86XK_LaunchD
    ⟨0x010000b0, 0x1008ff4e⟩,  -- Key_LaunchE, XF86XK_LaunchE
    ⟨0x010000b1, 0x1008ff4f⟩]  -- Key_LaunchF, XF86XK_LaunchF

def isKeypadKey (keysym : KeySym) : Bool := decide (xkKPSpace ≤ keysym ∧ keysym ≤ xkKP9)

/-- The character with a code below 0x10000. -/
def qChar (code : BitVec 32) : BitVec 16 := code.setWidth 16

/-- `toUpper` is `QChar::toUpper`. -/
def keyQtToSymXs (toUpper : BitVec 16 → BitVec 16) (keyQt : BitVec 32) : List KeySym :=
  let symQt := keyQt &&& ~~~Qt.KeyboardModifierMask
  let fromTable :=
    (rgQtToSymX.filter fun tk => decide (tk.keySymQt = symQt) &&
      !(decide (keyQt &&& Qt.KeypadModifier ≠ 0) && !isKeypadKey tk.keySymX)).map TransKey.keySymX
  if keyQt &&& Qt.KeypadModifier ≠ 0 then
    if Qt.Key_0 ≤ symQt ∧ symQt ≤ Qt.Key_9 then [xkKP0 + (symQt - Qt.Key_0)] else fromTable
  else if symQt < 0x1000 then [(toUpper (qChar symQt)).setWidth 32]
  else fromTable

/-- The key of a keysym, before the modifiers. -/
def symXToQt (toUpper : BitVec 16 → BitVec 16) (keySym : KeySym) : BitVec 32 :=
  -- numeric keypad keys
  if xkKP0 ≤ keySym ∧ keySym ≤ xkKP9 then Qt.Key_0 + (keySym - xkKP0)
  else if keySym < 0x1000 then
    if 0x61 ≤ keySym ∧ keySym ≤ 0x7a then (toUpper (qChar keySym)).setWidth 32 else keySym
  else if keySym < 0x3000 then keySym
  else
    match rgQtToSymX.find? fun tk => decide (tk.keySymX = keySym) with
    | some tk => tk.keySymQt
    | none => Qt.Key_unknown

def symXModXToKeyQt (toUpper : BitVec 16 → BitVec 16) (server : Option Keyboard) (g : State)
    (keySym : KeySym) (modX : BitVec 16) : Option (BitVec 32) × State :=
  let keyQt := symXToQt toUpper keySym
  if keyQt = Qt.Key_unknown then (none, g)
  else
    let (keyModQt, g) := modXToQt server g (modX.setWidth 32)
    let keyQt := keyQt ||| keyModQt
    (some (if isKeypadKey keySym then keyQt ||| Qt.KeypadModifier else keyQt), g)

/-! ## The table -/

/-- What both directions rest on: the keysyms of the table are not characters, its keys have no modifiers, and
a keysym outside the keypad has a key that is looked up in the table, except for `XK_KP_Equal`. -/
structure Regular (tk : TransKey) : Prop where
  keySym : 0x3000 ≤ tk.keySymX
  known : tk.keySymQt ≠ Qt.Key_unknown
  modifiers : Apart tk.keySymQt Qt.KeyboardModifierMask
  character : ¬(0x1000 ≤ tk.keySymQt ∧ tk.keySymQt < 0x3000)
  digit : isKeypadKey tk.keySymX → ¬(Qt.Key_0 ≤ tk.keySymQt ∧ tk.keySymQt ≤ Qt.Key_9)
  outside : ¬isKeypadKey tk.keySymX → tk.keySymX ≠ xkKPEqual → 0x1000 ≤ tk.keySymQt
  equal : tk.keySymX = xkKPEqual → tk.keySymQt = 0x3d

theorem rgQtToSymX_regular : ∀ tk ∈ rgQtToSymX, Regular tk := by
  have hall : ∀ tk ∈ rgQtToSymX, 0x3000 ≤ tk.keySymX ∧ tk.keySymQt ≠ Qt.Key_unknown ∧
      Apart tk.keySymQt Qt.KeyboardModifierMask ∧
      ¬(0x1000 ≤ tk.keySymQt ∧ tk.keySymQt < 0x3000) ∧
      (isKeypadKey tk.keySymX → ¬(Qt.Key_0 ≤ tk.keySymQt ∧ tk.keySymQt ≤ Qt.Key_9)) ∧
      (¬isKeypadKey tk.keySymX → tk.keySymX ≠ xkKPEqual → 0x1000 ≤ tk.keySymQt) ∧
      (tk.keySymX = xkKPEqual → tk.keySymQt = 0x3d) := by
    decide +kernel
  intro tk htk
  obtain ⟨h1, h2, h3, h4, h5, h6, h7⟩ := hall tk htk
  exact ⟨h1, h2, h3, h4, h5, h6, h7⟩

/-! ## Codes with modifiers -/

theorem apart_of_lt {code : BitVec 32} (h : code < 0x3000) : Apart code Qt.KeyboardModifierMask := by
  rw [apart_iff]
  intro i hi
  have hlt : code.toNat < 2 ^ 14 := Nat.lt_trans (BitVec.lt_def.mp h) (by decide)
  have hlow : i < 14 := by
    by_contra hge
    rw [BitVec.getLsbD, Nat.testBit_lt_two_pow] at hi
    · cases hi
    · exact Nat.lt_of_lt_of_le hlt (Nat.pow_le_pow_right (by decide) (Nat.le_of_not_lt hge))
  have hbits : ∀ i < 14, Qt.KeyboardModifierMask.getLsbD i = false := by decide
  exact hbits i hlow

-- Taking the modifiers off leaves the key.
theorem and_not_mask {key mods : BitVec 32} (hkey : Apart key Qt.KeyboardModifierMask)
    (hmods : Apart mods (~~~Qt.KeyboardModifierMask)) :
    (key ||| mods) &&& ~~~Qt.KeyboardModifierMask = key := by
  rw [apart_iff] at hkey
  apply BitVec.eq_of_getLsbD_eq
  intro i hi
  have hbit := congrArg (BitVec.getLsbD · i) hmods
  simp only [BitVec.getLsbD_and, BitVec.getLsbD_not, BitVec.getLsbD_or, hi, decide_true, Bool.true_and]
    at hbit ⊢
  cases hk : key.getLsbD i with
  | false => simpa using hbit
  | true => simp [hkey i hk]

/-- A code without the keypad's flag, and with it. -/
def withKeypad (code : BitVec 32) (keypad : Bool) : BitVec 32 :=
  if keypad then code ||| Qt.KeypadModifier else code

theorem withKeypad_and_not_mask {key mods : BitVec 32} (hkey : Apart key Qt.KeyboardModifierMask)
    (hmods : Apart mods (~~~Qt.KeyboardModifierMask)) (keypad : Bool) :
    withKeypad (key ||| mods) keypad &&& ~~~Qt.KeyboardModifierMask = key := by
  cases keypad with
  | false => exact and_not_mask hkey hmods
  | true =>
      have hpad : Apart Qt.KeypadModifier (~~~Qt.KeyboardModifierMask) := by decide
      show (key ||| mods ||| Qt.KeypadModifier) &&& _ = key
      rw [BitVec.or_assoc]
      exact and_not_mask hkey (hmods.or_left hpad)

theorem withKeypad_and_keypad {key mods : BitVec 32} (hkey : Apart key Qt.KeypadModifier)
    (hmods : Apart mods Qt.KeypadModifier) (keypad : Bool) :
    withKeypad (key ||| mods) keypad &&& Qt.KeypadModifier ≠ 0 ↔ keypad = true := by
  have hcode : Apart (key ||| mods) Qt.KeypadModifier := hkey.or_left hmods
  cases keypad with
  | false => exact iff_of_false (not_not.mpr hcode) Bool.false_ne_true
  | true =>
      apply iff_of_true _ rfl
      show (key ||| mods ||| Qt.KeypadModifier) &&& Qt.KeypadModifier ≠ 0
      have hself : (key ||| mods ||| Qt.KeypadModifier) &&& Qt.KeypadModifier = Qt.KeypadModifier := by
        ext i
        simp +contextual
      rw [hself]
      decide

/-- The keysyms of a key, by itself and on the keypad. -/
def symXsOf (toUpper : BitVec 16 → BitVec 16) (symQt : BitVec 32) (keypad : Bool) : List KeySym :=
  let fromTable :=
    (rgQtToSymX.filter fun tk => decide (tk.keySymQt = symQt) &&
      !(keypad && !isKeypadKey tk.keySymX)).map TransKey.keySymX
  if keypad then
    if Qt.Key_0 ≤ symQt ∧ symQt ≤ Qt.Key_9 then [xkKP0 + (symQt - Qt.Key_0)] else fromTable
  else if symQt < 0x1000 then [(toUpper (qChar symQt)).setWidth 32]
  else fromTable

theorem keyQtToSymXs_withKeypad (toUpper : BitVec 16 → BitVec 16) {key mods : BitVec 32}
    (hkey : Apart key Qt.KeyboardModifierMask) (hmods : Apart mods (~~~Qt.KeyboardModifierMask))
    (hpad : Apart mods Qt.KeypadModifier) (keypad : Bool) :
    keyQtToSymXs toUpper (withKeypad (key ||| mods) keypad) = symXsOf toUpper key keypad := by
  have hmask : Qt.KeyboardModifierMask = Qt.KeypadModifier ||| Qt.KeyboardModifierMask := by decide
  have hkeypad := withKeypad_and_keypad (hmask ▸ hkey).of_or_right.1 hpad keypad
  unfold keyQtToSymXs symXsOf
  rw [withKeypad_and_not_mask hkey hmods]
  simp only [hkeypad, Bool.decide_eq_true]

theorem mem_symXsOf {toUpper : BitVec 16 → BitVec 16} {symQt : BitVec 32} {keypad : Bool} {tk : TransKey}
    (htk : tk ∈ rgQtToSymX) (hqt : tk.keySymQt = symQt) (hkeypad : isKeypadKey tk.keySymX = keypad)
    (h : if keypad then ¬(Qt.Key_0 ≤ symQt ∧ symQt ≤ Qt.Key_9) else ¬symQt < 0x1000) :
    tk.keySymX ∈ symXsOf toUpper symQt keypad := by
  unfold symXsOf
  have hmem : tk.keySymX ∈ (rgQtToSymX.filter fun tk => decide (tk.keySymQt = symQt) &&
      !(keypad && !isKeypadKey tk.keySymX)).map TransKey.keySymX := by
    apply List.mem_map.mpr ⟨tk, List.mem_filter.mpr ⟨htk, _⟩, rfl⟩
    rw [hqt, hkeypad]
    cases keypad <;> simp
  cases keypad with
  | false =>
      dsimp only
      rw [if_neg Bool.false_ne_true, if_neg h]
      exact hmem
  | true =>
      dsimp only
      rw [if_pos rfl, if_neg h]
      exact hmem

theorem modXToQt_isModifiers (server : Option Keyboard) (g : State) (modX : BitVec 32) :
    Apart (modXToQt server g modX).1 (~~~Qt.KeyboardModifierMask) ∧
      Apart (modXToQt server g modX).1 Qt.KeypadModifier := by
  have htable : ∀ g : State, ∀ a ∈ g.rgX11ModInfo,
      Apart a.modQt (~~~Qt.KeyboardModifierMask) ∧ Apart a.modQt Qt.KeypadModifier := by
    intro g
    unfold State.rgX11ModInfo
    simp only [List.forall_mem_cons]
    exact ⟨by decide, by decide, by decide, by decide, List.forall_mem_nil _⟩
  constructor
  · apply apart_translate
    exact fun a ha => (htable _ a ha).1
  · apply apart_translate
    exact fun a ha => (htable _ a ha).2

/-! ## There and back -/

section RoundTrip

variable {toUpper : BitVec 16 → BitVec 16} (hupper : SimpleUpper toUpper) {keySym : KeySym}

theorem qChar_setWidth (c : BitVec 16) : qChar (c.setWidth 32) = c := by
  unfold qChar
  rw [BitVec.setWidth_setWidth_of_le _ (by decide), BitVec.setWidth_eq]

theorem setWidth_qChar (h : keySym < 0x1000) : (qChar keySym).setWidth 32 = keySym := by
  unfold qChar
  bv_omega

theorem isKeypadKey_of_lt (h : keySym < 0x3000) : isKeypadKey keySym = false := by
  unfold isKeypadKey xkKPSpace
  apply decide_eq_false
  rintro ⟨hle, -⟩
  bv_omega

theorem not_digit_of_lt (h : keySym < 0x3000) : ¬(xkKP0 ≤ keySym ∧ keySym ≤ xkKP9) := by
  unfold xkKP0
  rintro ⟨hle, -⟩
  bv_omega

-- The digits of the keypad have a rule of their own in both directions.
theorem symXsOf_digit (h0 : xkKP0 ≤ keySym) (h9 : keySym ≤ xkKP9) :
    symXsOf toUpper (symXToQt toUpper keySym) (isKeypadKey keySym) = [keySym] := by
  have hkeypad : isKeypadKey keySym = true := by
    apply decide_eq_true
    unfold xkKPSpace
    unfold xkKP0 at h0
    constructor
    · bv_omega
    · exact h9
  have hqt : symXToQt toUpper keySym = Qt.Key_0 + (keySym - xkKP0) := if_pos ⟨h0, h9⟩
  have hrange : Qt.Key_0 ≤ Qt.Key_0 + (keySym - xkKP0) ∧ Qt.Key_0 + (keySym - xkKP0) ≤ Qt.Key_9 := by
    unfold Qt.Key_0 Qt.Key_9 xkKP0 xkKP9 at *
    constructor <;> bv_omega
  have hback : xkKP0 + (Qt.Key_0 + (keySym - xkKP0) - Qt.Key_0) = keySym := by
    unfold Qt.Key_0 xkKP0
    bv_omega
  unfold symXsOf
  dsimp only
  rw [hkeypad, hqt, if_pos rfl, if_pos hrange, hback]

include hupper in
-- A character is looked up by its upper case.
theorem symXToQt_character (h : keySym < 0x1000) :
    symXToQt toUpper keySym < 0x1000 ∧
      toUpper (qChar (symXToQt toUpper keySym)) = toUpper (qChar keySym) := by
  have hlt : keySym < 0x3000 := by bv_omega
  unfold symXToQt
  rw [if_neg (not_digit_of_lt hlt), if_pos h]
  split
  · rename_i hletter
    have hcapital : ∀ n < 26, simpleUpper (BitVec.ofNat 16 (0x61 + n)) = BitVec.ofNat 16 (0x41 + n) := by
      decide +kernel
    have hnarrow : (qChar keySym).toNat = keySym.toNat := by
      unfold qChar
      rw [BitVec.toNat_setWidth]
      bv_omega
    have hcode : qChar keySym = BitVec.ofNat 16 (0x61 + (keySym.toNat - 0x61)) := by bv_omega
    have hupperCase : toUpper (qChar keySym) = BitVec.ofNat 16 (0x41 + (keySym.toNat - 0x61)) := by
      rw [hupper.letters _ (.inl (by bv_omega)), hcode]
      exact hcapital _ (by bv_omega)
    constructor
    · rw [hupperCase, BitVec.lt_def, BitVec.toNat_setWidth]
      bv_omega
    · rw [qChar_setWidth, hupper.idem]
  · exact ⟨h, rfl⟩

include hupper in
theorem sameKey_of_character (h : keySym < 0x1000) :
    (∃ s ∈ symXsOf toUpper (symXToQt toUpper keySym) (isKeypadKey keySym), SameKey s keySym) ↔
      toUpper (qChar keySym) = qChar keySym ∨ SmallLatin1 (qChar keySym) := by
  have hlt : keySym < 0x3000 := by bv_omega
  obtain ⟨hkey, hsame⟩ := symXToQt_character hupper h
  have hlist : symXsOf toUpper (symXToQt toUpper keySym) (isKeypadKey keySym) =
      [(toUpper (qChar keySym)).setWidth 32] := by
    unfold symXsOf
    dsimp only
    rw [isKeypadKey_of_lt hlt, if_neg Bool.false_ne_true, if_pos hkey, hsame]
  have hcode : qChar keySym < 0x1000 := by
    unfold qChar
    bv_omega
  have hiff := sameKey_upper_iff hupper hcode
  rw [setWidth_qChar h] at hiff
  rw [hlist, ← hiff]
  simp only [List.mem_singleton, exists_eq_left]

-- The middle range goes to Qt as it is, and nothing leads back.
theorem symXsOf_middle (hlow : ¬keySym < 0x1000) (hhigh : keySym < 0x3000) :
    symXsOf toUpper (symXToQt toUpper keySym) (isKeypadKey keySym) = [] := by
  have hqt : symXToQt toUpper keySym = keySym := by
    unfold symXToQt
    rw [if_neg (not_digit_of_lt hhigh), if_neg hlow, if_pos hhigh]
  unfold symXsOf
  dsimp only
  rw [hqt, isKeypadKey_of_lt hhigh, if_neg Bool.false_ne_true, if_neg hlow, List.map_eq_nil_iff,
    List.filter_eq_nil_iff]
  intro tk htk hmatch
  have heq : tk.keySymQt = keySym := by simpa using hmatch
  apply (rgQtToSymX_regular tk htk).character
  rw [heq]
  exact ⟨BitVec.not_lt.mp hlow, hhigh⟩

theorem symXToQt_table (hdigit : ¬(xkKP0 ≤ keySym ∧ keySym ≤ xkKP9)) (hhigh : ¬keySym < 0x3000)
    (hknown : symXToQt toUpper keySym ≠ Qt.Key_unknown) :
    ∃ tk ∈ rgQtToSymX, tk.keySymX = keySym ∧ symXToQt toUpper keySym = tk.keySymQt := by
  have hlow : ¬keySym < 0x1000 := by bv_omega
  have hfind : symXToQt toUpper keySym =
      match rgQtToSymX.find? fun tk => decide (tk.keySymX = keySym) with
      | some tk => tk.keySymQt
      | none => Qt.Key_unknown := by
    unfold symXToQt
    rw [if_neg hdigit, if_neg hlow, if_neg hhigh]
  rw [hfind] at hknown ⊢
  cases htk : rgQtToSymX.find? fun tk => decide (tk.keySymX = keySym) with
  | none =>
      rw [htk] at hknown
      exact absurd rfl hknown
  | some tk =>
      have hmatch := List.find?_some htk
      exact ⟨tk, List.mem_of_find?_eq_some htk, of_decide_eq_true hmatch, rfl⟩

include hupper in
theorem sameKey_of_table {tk : TransKey} (htk : tk ∈ rgQtToSymX) :
    (∃ s ∈ symXsOf toUpper tk.keySymQt (isKeypadKey tk.keySymX), SameKey s tk.keySymX) ↔
      tk.keySymX ≠ xkKPEqual := by
  have hregular := rgQtToSymX_regular tk htk
  by_cases hequal : tk.keySymX = xkKPEqual
  · apply iff_of_false _ (not_not.mpr hequal)
    rintro ⟨s, hs, hsame⟩
    rw [hregular.equal hequal, hequal] at hs
    have hchar : toUpper (qChar 0x3d) = 0x3d := by
      rw [hupper.letters _ (by decide)]
      decide +kernel
    have hlist : symXsOf toUpper 0x3d (isKeypadKey xkKPEqual) = [0x3d] := by
      unfold symXsOf
      dsimp only
      rw [show isKeypadKey xkKPEqual = false by decide, if_neg Bool.false_ne_true, if_pos (by decide), hchar]
      rfl
    rw [hlist, List.mem_singleton] at hs
    have heq := eq_of_lowerCase_eq hregular.keySym hsame
    rw [hs, hequal] at heq
    exact absurd heq (by decide)
  · apply iff_of_true _ hequal
    refine ⟨tk.keySymX, mem_symXsOf htk rfl rfl ?_, rfl⟩
    split
    · rename_i hkeypad
      exact hregular.digit hkeypad
    · rename_i hkeypad
      exact BitVec.not_lt.mpr (hregular.outside hkeypad hequal)

include hupper in
theorem apart_symXToQt (hknown : symXToQt toUpper keySym ≠ Qt.Key_unknown) :
    Apart (symXToQt toUpper keySym) Qt.KeyboardModifierMask := by
  by_cases hdigit : xkKP0 ≤ keySym ∧ keySym ≤ xkKP9
  · have hqt : symXToQt toUpper keySym = Qt.Key_0 + (keySym - xkKP0) := if_pos hdigit
    apply apart_of_lt
    rw [hqt]
    unfold Qt.Key_0 xkKP0 xkKP9 at *
    bv_omega
  · by_cases hlow : keySym < 0x1000
    · have hkey := (symXToQt_character hupper hlow).1
      apply apart_of_lt
      bv_omega
    · by_cases hhigh : keySym < 0x3000
      · apply apart_of_lt
        unfold symXToQt
        rw [if_neg hdigit, if_neg hlow, if_pos hhigh]
        exact hhigh
      · obtain ⟨tk, htk, -, hqt⟩ := symXToQt_table hdigit hhigh hknown
        rw [hqt]
        exact (rgQtToSymX_regular tk htk).modifiers

include hupper in
/-- The keysym of a key press is among those that are grabbed for its Qt key, but for the keysyms of the middle
range, for `XK_KP_Equal`, and for those whose code is that of a small letter outside of Latin-1's. -/
theorem keySym_round_trip_iff (server : Option Keyboard) (g : State) (modX : BitVec 16) {q : BitVec 32}
    (hq : (symXModXToKeyQt toUpper server g keySym modX).1 = some q) :
    (∃ s ∈ keyQtToSymXs toUpper q, SameKey s keySym) ↔
      ¬(0x1000 ≤ keySym ∧ keySym < 0x3000) ∧ keySym ≠ xkKPEqual ∧
        (keySym < 0x1000 → toUpper (qChar keySym) = qChar keySym ∨ SmallLatin1 (qChar keySym)) := by
  unfold symXModXToKeyQt at hq
  dsimp only at hq
  split at hq
  · cases hq
  · rename_i hknown
    obtain ⟨hmods, hpad⟩ := modXToQt_isModifiers server g (modX.setWidth 32)
    have hcode : q = withKeypad
        (symXToQt toUpper keySym ||| (modXToQt server g (modX.setWidth 32)).1) (isKeypadKey keySym) :=
      (Option.some.inj hq).symm
    rw [hcode, keyQtToSymXs_withKeypad toUpper (apart_symXToQt hupper hknown) hmods hpad]
    by_cases hdigit : xkKP0 ≤ keySym ∧ keySym ≤ xkKP9
    · rw [symXsOf_digit hdigit.1 hdigit.2]
      apply iff_of_true ⟨keySym, List.mem_singleton_self _, rfl⟩
      unfold xkKP0 xkKP9 xkKPEqual at *
      refine ⟨?_, ?_, fun hlow => ?_⟩ <;> bv_omega
    · by_cases hlow : keySym < 0x1000
      · have hothers : ¬(0x1000 ≤ keySym ∧ keySym < 0x3000) ∧ keySym ≠ xkKPEqual := by
          unfold xkKPEqual
          constructor <;> bv_omega
        rw [sameKey_of_character hupper hlow]
        exact ⟨fun h => ⟨hothers.1, hothers.2, fun _ => h⟩, fun h => h.2.2 hlow⟩
      · by_cases hhigh : keySym < 0x3000
        · rw [symXsOf_middle hlow hhigh]
          apply iff_of_false
          · rintro ⟨s, hs, -⟩
            exact absurd hs List.not_mem_nil
          · exact fun h => h.1 ⟨BitVec.not_lt.mp hlow, hhigh⟩
        · obtain ⟨tk, htk, rfl, hqt⟩ := symXToQt_table hdigit hhigh hknown
          rw [hqt, sameKey_of_table hupper htk]
          exact ⟨fun h => ⟨fun hmiddle => hhigh hmiddle.2, h, fun hsmall => absurd hsmall hlow⟩, fun h => h.2.1⟩

end RoundTrip

-- `XK_a` with Shift is grabbed as `XK_A`.
theorem keySym_round_trip_letter :
    ∃ s ∈ keyQtToSymXs simpleUpper (Qt.SHIFT ||| 0x41), SameKey s 0x61 :=
  (keySym_round_trip_iff simpleUpper_simpleUpper none initial 1 (by decide +kernel)).mpr (by decide +kernel)

-- `XK_EuroSign`, the equals sign of the keypad, and `XK_Lstroke`, which is grabbed as `XK_breve`.
theorem no_keySym_for_euro :
    (symXModXToKeyQt simpleUpper none initial 0x20ac 0).1 = some 0x20ac ∧
      keyQtToSymXs simpleUpper 0x20ac = [] ∧
      (symXModXToKeyQt simpleUpper none initial xkKPEqual 0).1 = some 0x3d ∧
      keyQtToSymXs simpleUpper 0x3d = [0x3d] ∧ ¬SameKey 0x3d xkKPEqual ∧
      (symXModXToKeyQt simpleUpper none initial 0x1a3 0).1 = some 0x1a3 ∧
      keyQtToSymXs simpleUpper 0x1a3 = [0x1a2] ∧ ¬SameKey 0x1a2 0x1a3 := by
  decide +kernel

end KKeyServer

end KWindowSystem
