import Axium.Auth.KeyExchange
import Axium.Battleground.Scheduler
import Axium.Battleground.ClientIds
import Axium.Battleground.LastStanding
import Axium.Battleground.Standing
import Axium.Battleground.RatingWindow
import Axium.Battleground.Skirmish
import Axium.Battleground.RunningFill
import Axium.Arena.PointCap
import Axium.Arena.Loading
import Axium.Arena.Membership
import Axium.Battleground.TimedOut
import Axium.Battleground.AverageWait
import Axium.Zones.EyePoints
import Axium.Zones.ArathiRewards
import Axium.PvP.ChallengeRemoval
import Axium.PvP.RefusedChallenge
import Axium.Zones.FlagClicks
import Axium.Guilds.Leader
import Axium.Guilds.DailyLimit
import Axium.Guilds.BankRights
import Axium.Guilds.EventLog
import Axium.Trade.Conservation
import Axium.Looting.RollRuns
import Axium.Looting.LootTermination
import Axium.Looting.LootView
import Axium.Packets.HostileLengths
import Axium.Server.Reassembly
import Axium.Server.OutStream
import Axium.Combat.LazySorting
import Axium.Combat.Selection
import Axium.Reputation.Bookkeeping
import Axium.Mails.CashOnDelivery
import Axium.Groups.LooterRotation
import Axium.Groups.InviteRuns
import Axium.Groups.StorageIds
import Axium.Groups.Mirror
import Axium.Utilities.Durations
import Axium.Utilities.TimedEvents
import Axium.Utilities.Timer
import Axium.Combat.DiminishingLaw
import Axium.Conditions.References
import Axium.Chat.Membership
import Axium.Pools.QuestRotation
import Axium.GameEvents.Restarts
import Axium.GameEvents.Overlap
import Axium.GameEvents.Windows
import Axium.Instances.InstanceIds
import Axium.Instances.RespawnTimes
import Axium.Instances.Schedule
import Axium.Player.TalentLedger
import Axium.Player.AutoStoreLoot
import Axium.Player.Cooldowns
import Axium.Player.ItemSets
import Axium.Player.Vendor
