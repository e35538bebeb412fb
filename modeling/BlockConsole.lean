import BlockConsole.Main
import BlockConsole.Proofs.Bench.Audience
import BlockConsole.Proofs.Bench.Commuting
import BlockConsole.Proofs.Bench.Confinement
import BlockConsole.Proofs.Bench.Footing
import BlockConsole.Proofs.Bench.Footprint
import BlockConsole.Proofs.Bench.FreshArea
import BlockConsole.Proofs.Bench.Mark
import BlockConsole.Proofs.Bench.Opening
import BlockConsole.Proofs.Bench.Orderly
import BlockConsole.Proofs.Bench.Pose
import BlockConsole.Proofs.Bench.Turn
import BlockConsole.Proofs.Block.NormalForm
import BlockConsole.Proofs.Block.Spelling
import BlockConsole.Proofs.Block.StatesMap
import BlockConsole.Proofs.Block.StatesParser
import BlockConsole.Proofs.Cache.Account
import BlockConsole.Proofs.Cache.Encoding
import BlockConsole.Proofs.Cache.Ledger
import BlockConsole.Proofs.Cache.Refinement
import BlockConsole.Proofs.Command.Balance
import BlockConsole.Proofs.Command.Naming
import BlockConsole.Proofs.Command.Parser
import BlockConsole.Proofs.Command.Strewing
import BlockConsole.Proofs.Console.Atomicity
import BlockConsole.Proofs.Console.Gate
import BlockConsole.Proofs.Console.Obtaining
import BlockConsole.Proofs.Console.Population
import BlockConsole.Proofs.Console.Prudence
import BlockConsole.Proofs.Session.Run
import BlockConsole.Proofs.Session.Warmup
import BlockConsole.Proofs.Space.Lookup
import BlockConsole.Proofs.World.Agent
import BlockConsole.Proofs.World.Filling
import BlockConsole.Proofs.World.Sending
import BlockConsole.Proofs.World.Snapshot
