import SteamRecovery.Amend
import SteamRecovery.Numerals
import SteamRecovery.ByteStrings
import SteamRecovery.Verifier
import SteamRecovery.MountTables
import SteamRecovery.Devices
import SteamRecovery.Packages
import SteamRecovery.ShellWords
import SteamRecovery.Cursor
import SteamRecovery.Fifo
import SteamRecovery.FileManager
import SteamRecovery.Menus
import SteamRecovery.KeyQueue
import SteamRecovery.Interleaving
import SteamRecovery.Lightswitch
import SteamRecovery.Config
import SteamRecovery.ConfigThreads
import SteamRecovery.CStrings
import SteamRecovery.ConfigFiles
import SteamRecovery.ConfigLines
import SteamRecovery.Upgrade
import SteamRecovery.Afterburner
import SteamRecovery.BootMessages
import SteamRecovery.CommandFile
import SteamRecovery.FinishRecovery
import SteamRecovery.Volumes
import SteamRecovery.Unmounting
import SteamRecovery.Autodetect
import SteamRecovery.Roots
import SteamRecovery.Routines
import SteamRecovery.Firmware
import SteamRecovery.UpdateLayout
import SteamRecovery.Nandroid
import SteamRecovery.RootPaths
import SteamRecovery.Probing
import SteamRecovery.Formatting
import SteamRecovery.BackupCoverage
import SteamRecovery.Checksums
import SteamRecovery.Conversion
import SteamRecovery.Stages
import SteamRecovery.SystemConversion
import SteamRecovery.Getopt
import SteamRecovery.MainOptions
import SteamRecovery.Wrapping
import SteamRecovery.TextLog
import SteamRecovery.Compaction
import SteamRecovery.LogReader
import SteamRecovery.Images
import SteamRecovery.Restarting
import SteamRecovery.RecoveryRuns
import SteamRecovery.AdvancedMenus
import SteamRecovery.Uninstalling
import SteamRecovery.UninstallBoot
import SteamRecovery.UninstallRuns
import SteamRecovery.Sessions
import SteamRecovery.RecoveryMenus
import SteamRecovery.MenuSessions
import SteamRecovery.TweakMenu
import SteamRecovery.BootTweaks
import SteamRecovery.Paths
import SteamRecovery.ZipChooser
import SteamRecovery.ScriptCommands
import SteamRecovery.ScriptFunctions
import SteamRecovery.Clipboard
import SteamRecovery.MenuRows
import SteamRecovery.Descriptors
import SteamRecovery.Popen
import SteamRecovery.PopenRuns
import SteamRecovery.GatherFiles
import SteamRecovery.FormatStrings
import SteamRecovery.Printing
import SteamRecovery.UpdateBinary
import SteamRecovery.UpdateScripts
import SteamRecovery.UpdatePackage
import SteamRecovery.Groups
import SteamRecovery.AfterburnerFile
import SteamRecovery.Tokens
import SteamRecovery.Console
import SteamRecovery.Secret
import SteamRecovery.Touches
import SteamRecovery.OrderedSets
import SteamRecovery.ClipboardArray
import SteamRecovery.FsReformat
import SteamRecovery.UndoSettings
import SteamRecovery.Scanf
import SteamRecovery.KeyFormat
import SteamRecovery.Keys
import SteamRecovery.Monitors
import SteamRecovery.UiThreads
import SteamRecovery.PendingWork
