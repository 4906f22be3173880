import VipHost.Bench
import VipHost.Clock.Refresh
import VipHost.Display.Screen
import VipHost.Main
import VipHost.Proofs.Barrier
import VipHost.Proofs.ExactDoubles
import VipHost.Proofs.FailedRequests
import VipHost.Proofs.HeldKeys
import VipHost.Proofs.LifeCycle
import VipHost.Proofs.StaleTime
import VipHost.Proofs.Timers
import VipHost.Proofs.Interleaving
import VipHost.Proofs.Cancellation
import VipHost.Proofs.Presenting
import VipHost.Proofs.Rounds
import VipHost.Proofs.ValidPictures
import VipHost.Proofs.PowerOn
import VipHost.Proofs.Reloading
import VipHost.Proofs.LastWord
import VipHost.Proofs.Painting
import VipHost.Proofs.ProgramArea
import VipHost.Proofs.Alternation
import VipHost.Proofs.RegisterDumps
import VipHost.Proofs.PlainArray
import VipHost.Proofs.ElapsedTotal
import VipHost.Proofs.TimeSpans
import VipHost.Proofs.DistinctKeys
import VipHost.Proofs.PartialSnapshots
import VipHost.Proofs.Commands
import VipHost.Proofs.NumberEnds
import VipHost.Proofs.TextEnds
import VipHost.Proofs.ValueEnds
import VipHost.Proofs.NearestDoubles
import VipHost.Proofs.WrittenNumbers
import VipHost.Proofs.WrittenTexts
import VipHost.Proofs.KeyLines
import VipHost.Proofs.Decoding
import VipHost.Proofs.SettingLines
