import LunConsole.Config.Document
import LunConsole.Console.Run
import LunConsole.Gateway
import LunConsole.Launch
import LunConsole.Main
import LunConsole.Rest
import LunConsole.Watch.Session
import LunConsole.Yaml.ToJson
import LunConsole.Proofs.Console.Creation
import LunConsole.Proofs.Console.Slots
import LunConsole.Proofs.Console.Tenure
import LunConsole.Proofs.Guards
import LunConsole.Proofs.Console.Chronicle
import LunConsole.Proofs.Board
import LunConsole.Proofs.Console.Alerts
import LunConsole.Proofs.Console.Applied
import LunConsole.Proofs.Console.LastList
import LunConsole.Proofs.Server.Patch
import LunConsole.Proofs.Server.World
import LunConsole.Proofs.Server.Freshness
import LunConsole.Proofs.Console.Announced
import LunConsole.Proofs.Console.GivenUp
import LunConsole.Proofs.Console.Known
import LunConsole.Proofs.Console.Beside
import LunConsole.Proofs.Console.RolledBack
import LunConsole.Proofs.Console.Selection
import LunConsole.Proofs.Console.SelectingAll
import LunConsole.Proofs.Watch.Readiness
import LunConsole.Proofs.Console.Refusals
import LunConsole.Proofs.Console.Commuting
import LunConsole.Proofs.Console.LoadErrors
import LunConsole.Proofs.FilesystemName
import LunConsole.Proofs.Precedence
import LunConsole.Proofs.NodeLists
import LunConsole.Proofs.Representatives
import LunConsole.Proofs.SharedEntries
import LunConsole.Proofs.Wire.Lawful
import LunConsole.Proofs.BoardEvents
import LunConsole.Proofs.Capacities
