import BatteryPack.Toml.Value
import BatteryPack.Toml.Order
import BatteryPack.Toml.Serde
import BatteryPack.Build.Facade
import BatteryPack.Build.Calls
import BatteryPack.Build.Dependence
import BatteryPack.Build.Exclude
import BatteryPack.Build.Reorder
import BatteryPack.Build.Ident
import BatteryPack.Build.Flatten
import BatteryPack.Build.Config
import BatteryPack.Build.Discovery
import BatteryPack.Build.Script
import BatteryPack.Cli.Names
import BatteryPack.Cli.Template
import BatteryPack.Cli.Commands
import BatteryPack.Cli.RustString
import BatteryPack.Cli.Registry
import BatteryPack.Cli.Tui.App
import BatteryPack.Cli.Tui.List
import BatteryPack.Cli.Tui.Form
import BatteryPack.Cli.Tui.Effects
import BatteryPack.Cli.Tui.Quit
import BatteryPack.Cli.Tui.Navigate
import BatteryPack.Cli.Tui.Editor
