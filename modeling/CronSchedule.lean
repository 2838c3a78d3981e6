import CronSchedule.Main
import CronSchedule.Proofs.Command.Lines
import CronSchedule.Proofs.Program.Overridden
import CronSchedule.Proofs.Schedule.Limit
import CronSchedule.Proofs.Schedule.Marks
import CronSchedule.Proofs.Schedule.Meaning
import CronSchedule.Proofs.Schedule.Printed
import CronSchedule.Proofs.Schedule.RoundTrip
import CronSchedule.Proofs.Schedule.Template
import CronSchedule.Proofs.Search.Earlier
import CronSchedule.Proofs.Search.Parts
import CronSchedule.Proofs.Search.Previous
import CronSchedule.Proofs.Search.Progress
import CronSchedule.Proofs.Search.Run
import CronSchedule.Proofs.Search.Satisfied
import CronSchedule.Proofs.Search.Spacing
import CronSchedule.Proofs.Search.Truncate
import CronSchedule.Proofs.Search.Upcoming
